import LineShell.Platform.Unix
import LineShell.Proofs.History
import LineShell.Proofs.Output
import LineShell.Proofs.Text.Lines

/-!
# The printed history

A session that is asked for its history prints one line for each entry: the number of the entry, a
space, and the entry. An entry is the normal form of a line that has been carried out, so it holds no
line feed, and what stands behind the first space of a printed line is the entry again. Read as a line,
an entry calls what the line called from which it was made, and becomes an entry itself. So the output
can be read back: given to a session that has read nothing, the lines lead to the same history
(`replays_printedHistory`), whatever the files are that the sessions work on.
-/

namespace LineShell

/-- The byte that ends a line. -/
def lineFeed : UInt8 := 0x0A

/-- The byte between the number of an entry and the entry. -/
def spaceByte : UInt8 := 0x20

/-- The lines of an output in which each line is ended by a line feed. -/
def outputLines (output : Bytes) : List Bytes :=
  (output.splitOn lineFeed).dropLast

/-- What stands in a line behind its first space, if that is text. -/
def behindSpace? (line : Bytes) : Option String :=
  Text.decode? ((line.dropWhile (· ≠ spaceByte)).drop 1)

namespace Turn

/-- The line that is read in a turn. -/
def text? : Turn → Option String
  | .read line => some line.text
  | .change _ => none

/-- What is called by the line that is read in a turn, if it is carried out. -/
def called? : Turn → Option Invocation
  | .read line => (acceptedCall? line.text).map Prod.fst
  | .change _ => none

end Turn

/-- An output tells the entries of a history, and what has been called to make them, so that reading
its lines makes the history again. -/
structure Replays (output : Bytes) (entries : List String) (calls : List Invocation) : Prop where
  /-- The last line is ended too. -/
  ended : (output.splitOn lineFeed).getLast? = some []
  /-- There are as many lines as entries. -/
  length : (outputLines output).length = entries.length
  /-- A line is the number of its entry, a space and the entry. -/
  line : ∀ (i : Nat) (h : i < entries.length),
    (outputLines output)[i]? = some (Text.encode s!"{i + 1} {entries[i]}")
  /-- Behind the number and the space stands the entry. -/
  entry : (outputLines output).map behindSpace? = entries.map some
  /-- A session that has read nothing comes to the same entries when it reads what stands behind the
  numbers, whatever its files are and however they change meanwhile. -/
  again : ∀ (files : FileSystem) (dir : WorkingDirectory) (turns : List Turn),
    turns.filterMap Turn.text? = (outputLines output).filterMap behindSpace? →
      ((⟨files, dir, {}⟩ : Session).afterTurns turns).history.entries = entries
  /-- What stands behind the numbers calls what was called. -/
  calls : ((outputLines output).filterMap behindSpace?).map Invocation.ofLine? = calls.map some

/-! ## Entries -/

/-- The entry that a line becomes, if it is carried out. -/
def entryOf? (text : String) : Option String :=
  (acceptedCall? text).map fun call => call.1.normalized

section Entries

variable {text : String} {invocation : Invocation} {command : Command}

/-- The normal form of a line is carried out as the line is. -/
theorem acceptedCall?_normalized (accepted : acceptedCall? text = some (invocation, command)) :
    acceptedCall? invocation.normalized = some (invocation, command) := by
  obtain ⟨called, asked⟩ := Session.acceptedCall?_eq_some_iff.1 accepted
  exact Session.acceptedCall?_eq_some_iff.2 ⟨Invocation.ofLine?_normalized called, asked⟩

/-- An entry becomes itself. -/
theorem entryOf?_of_entryOf? {entry : String} (h : entryOf? text = some entry) :
    entryOf? entry = some entry := by
  obtain ⟨⟨invocation, command⟩, accepted, rfl⟩ := Option.map_eq_some_iff.1 h
  rw [entryOf?, acceptedCall?_normalized accepted]
  rfl

theorem lineFeed_notMem_entry {entry : String} (h : entryOf? text = some entry) :
    '\n' ∉ entry.toList := by
  obtain ⟨⟨invocation, command⟩, accepted, rfl⟩ := Option.map_eq_some_iff.1 h
  intro mem
  have called := (Session.acceptedCall?_eq_some_iff.1 accepted).1
  have space := Invocation.eq_space_of_mem_normalized called mem (by decide)
  exact absurd space (by decide)

theorem recorded?_eq (turn : Turn) : turn.recorded? = turn.text?.bind entryOf? := by
  cases turn <;> rfl

/-- What is recorded in some turns depends on the lines that are read only. -/
theorem filterMap_recorded? (turns : List Turn) :
    turns.filterMap Turn.recorded? = (turns.filterMap Turn.text?).filterMap entryOf? := by
  rw [List.filterMap_filterMap]
  exact congrArg (List.filterMap · turns) (funext recorded?_eq)

/-- Each turn that calls something records the normal form of the call. -/
theorem map_normalized_called? (turns : List Turn) :
    (turns.filterMap Turn.called?).map Invocation.normalized = turns.filterMap Turn.recorded? := by
  rw [List.map_filterMap]
  congr 1
  funext turn
  cases turn with
  | read line => rw [Turn.called?, Turn.recorded?, Option.map_map]; rfl
  | change files => rfl

/-- What is recorded is made from a line that is carried out. -/
theorem exists_entryOf?_of_mem {entry : String} {turns : List Turn}
    (h : entry ∈ turns.filterMap Turn.recorded?) : ∃ text, entryOf? text = some entry := by
  rw [filterMap_recorded?] at h
  obtain ⟨text, -, made⟩ := List.mem_filterMap.1 h
  exact ⟨text, made⟩

/-- What a turn calls is what the entry calls that is made from it. -/
theorem ofLine?_of_mem_called? {turns : List Turn} (h : invocation ∈ turns.filterMap Turn.called?) :
    Invocation.ofLine? invocation.normalized = some invocation := by
  obtain ⟨turn, -, calls⟩ := List.mem_filterMap.1 h
  cases turn with
  | change files => cases calls
  | read line =>
    obtain ⟨⟨_, command⟩, accepted, rfl⟩ := Option.map_eq_some_iff.1 calls
    exact Invocation.ofLine?_normalized (Session.acceptedCall?_eq_some_iff.1 accepted).1

end Entries

/-! ## Printed lines -/

/-- The line that shows an entry and its number. -/
def numberedLine (number : Nat) (entry : String) : String :=
  s!"{number} {entry}"

/-- The lines that show some entries with their numbers, which start at one. -/
def numberedLines (entries : List String) : List String :=
  entries.zipIdx.map fun found => numberedLine (found.2 + 1) found.1

/-- The output of some lines. -/
def writtenLines (texts : List String) : Bytes :=
  texts.flatMap fun text => Text.encode (text ++ "\n")

private theorem toList_numbered (number : Nat) (entry : String) :
    (numberedLine number entry).toList = Nat.toDigits 10 number ++ ([' '] ++ entry.toList) := by
  simp [numberedLine, toString, Nat.toList_repr]

/-- A character that is no digit is not in a number. -/
private theorem notMem_toDigits {c : Char} (h : c.isDigit = false) (number : Nat) :
    c ∉ Nat.toDigits 10 number := by
  intro mem
  rw [Nat.isDigit_of_mem_toDigits (by decide) (by decide) mem] at h
  cases h

private theorem lineFeed_notMem_numbered {entry : String} (h : '\n' ∉ entry.toList) (number : Nat) :
    '\n' ∉ (numberedLine number entry).toList := by
  rw [toList_numbered]
  simp only [List.mem_append, List.mem_singleton, not_or]
  exact ⟨notMem_toDigits (by decide) number, by decide, h⟩

/-- Output that is written line by line is cut into these lines. -/
theorem splitOn_writtenLines {texts : List String} (h : ∀ text ∈ texts, '\n' ∉ text.toList) :
    (writtenLines texts).splitOn lineFeed = texts.map Text.encode ++ [[]] := by
  induction texts with
  | nil => rfl
  | cons text rest ih =>
    have ended : Text.encode (text ++ "\n") = Text.encode text ++ [lineFeed] := by
      rw [Text.encode, String.toList_append, Text.encodeChars_append]
      rfl
    have noFeed : lineFeed ∉ Text.encode text := fun mem =>
      h text List.mem_cons_self (Text.mem_of_mem_encodeChars mem (by decide))
    have onward := ih fun other mem => h other (List.mem_cons_of_mem _ mem)
    rw [writtenLines] at onward ⊢
    rw [List.flatMap_cons, ended, List.append_assoc, List.singleton_append,
      List.splitOn_append_cons_self_of_not_mem noFeed, onward]
    rfl

/-- Behind the number of a printed entry stands the entry. -/
theorem behindSpace?_numbered (number : Nat) (entry : String) :
    behindSpace? (Text.encode (numberedLine number entry)) = some entry := by
  have parts : Text.encode (numberedLine number entry) =
      Text.encodeChars (Nat.toDigits 10 number) ++ spaceByte :: Text.encode entry := by
    rw [Text.encode, toList_numbered, Text.encodeChars_append, Text.encodeChars_append]
    rfl
  have noSpace : ∀ byte ∈ Text.encodeChars (Nat.toDigits 10 number), byte ≠ spaceByte := by
    rintro _ mem rfl
    have space : ' ' ∈ Nat.toDigits 10 number := Text.mem_of_mem_encodeChars mem (by decide)
    exact notMem_toDigits (by decide) number space
  have rest : (Text.encode (numberedLine number entry)).dropWhile (· ≠ spaceByte) =
      spaceByte :: Text.encode entry := by
    rw [parts, List.dropWhile_append_of_pos fun byte mem => by simpa using noSpace byte mem]
    simp
  rw [behindSpace?, rest, List.drop_one, List.tail_cons, Text.encode, Text.decode?_encodeChars,
    String.ofList_toList]

theorem map_behindSpace?_numberedLines (entries : List String) :
    ((numberedLines entries).map Text.encode).map behindSpace? = entries.map some := by
  have each : ∀ found : String × Nat,
      behindSpace? (Text.encode (numberedLine (found.2 + 1) found.1)) = some found.1 :=
    fun found => behindSpace?_numbered (found.2 + 1) found.1
  calc
    ((numberedLines entries).map Text.encode).map behindSpace?
      = entries.zipIdx.map fun found => some found.1 := by
        simp only [numberedLines, List.map_map, Function.comp_def, each]
    _ = (entries.zipIdx.map Prod.fst).map some := by simp only [List.map_map, Function.comp_def]
    _ = entries.map some := by rw [List.zipIdx_map_fst]

/-- The printed entries of a history lead to that history again. -/
theorem replays_writtenLines {entries : List String} {calls : List Invocation}
    (made : ∀ entry ∈ entries, ∃ text, entryOf? text = some entry)
    (normal : calls.map Invocation.normalized = entries)
    (called : ∀ call ∈ calls, Invocation.ofLine? call.normalized = some call) :
    Replays (writtenLines (numberedLines entries)) entries calls := by
  have noFeed : ∀ text ∈ numberedLines entries, '\n' ∉ text.toList := by
    intro text mem
    obtain ⟨found, isFound, rfl⟩ := List.mem_map.1 mem
    obtain ⟨source, makes⟩ := made found.1 (List.fst_mem_of_mem_zipIdx isFound)
    exact lineFeed_notMem_numbered (lineFeed_notMem_entry makes) (found.2 + 1)
  have cut := splitOn_writtenLines noFeed
  have lines : outputLines (writtenLines (numberedLines entries)) =
      (numberedLines entries).map Text.encode := by
    rw [outputLines, cut, List.dropLast_concat]
  have entry := map_behindSpace?_numberedLines entries
  have behind : ((numberedLines entries).map Text.encode).filterMap behindSpace? = entries := by
    calc
      ((numberedLines entries).map Text.encode).filterMap behindSpace?
        = (((numberedLines entries).map Text.encode).map behindSpace?).filterMap id := by
          rw [List.filterMap_map (f := behindSpace?), Function.id_comp]
      _ = (entries.map some).filterMap id := by rw [entry]
      _ = entries := by rw [List.filterMap_map, Function.id_comp, List.filterMap_some]
  refine ⟨?_, ?_, fun i h => ?_, ?_, fun files dir turns same => ?_, ?_⟩
  · rw [cut, List.getLast?_concat]
  · rw [lines, List.length_map, numberedLines, List.length_map, List.length_zipIdx]
  · rw [lines, numberedLines, List.getElem?_map, List.getElem?_map, List.getElem?_zipIdx,
      List.getElem?_eq_getElem h, Option.map_some, Option.map_some, Option.map_some, Nat.zero_add]
    rfl
  · rw [lines, entry]
  · rw [lines, behind] at same
    have become : entries.filterMap entryOf? = entries.filterMap some := by
      refine List.filterMap_congr fun entry mem => ?_
      obtain ⟨source, makes⟩ := made entry mem
      exact entryOf?_of_entryOf? makes
    rw [Session.entries_afterTurns, filterMap_recorded?, same, become, List.filterMap_some]
    exact List.nil_append entries
  · rw [lines, behind, ← normal, List.map_map]
    exact List.map_congr_left called

/-! ## Asking for the history -/

namespace Session

variable {session : Session} {text : String} {palette : Palette}

/-- What a session prints of its history. -/
theorem segments_history (recorded : session.history.entries ≠ []) :
    segments (Command.history.run session).effects =
      (numberedLines session.history.entries).map Segment.line := by
  have lines : (Command.history.run session).effects =
      ((Command.historyLines session.history).map Segment.line).map Effect.write := by
    rw [List.map_map]
    rfl
  have numbered : Command.historyLines session.history = numberedLines session.history.entries := by
    rw [Command.historyLines, if_neg recorded, History.numbered, List.map_map, numberedLines]
    exact List.map_congr_left fun _ _ => rfl
  rw [lines, segments_map_write, numbered]

/-- The call for the history. -/
def historyCall : Invocation :=
  ⟨"history", []⟩

/-- A line that asks for the history is carried out as the command of that name. -/
theorem acceptedCall?_history (asks : Text.words text = ["history"]) :
    acceptedCall? text = some (historyCall, .history) :=
  acceptedCall?_eq_some_iff.2 ⟨Invocation.ofLine?_eq_some_iff.2 asks, by decide⟩

/-- A line that has been recorded is in the history. -/
theorem entries_after_ne_nil {invocation : Invocation}
    (called : Invocation.ofLine? text = some invocation) :
    (session.after (.record invocation.normalized)).history.entries ≠ [] := by
  have added : (session.after (.record invocation.normalized)).history.entries =
      session.history.entries ++ [invocation.normalized] := by
    rw [after, History.record, if_neg (Invocation.trim_normalized_ne_nil called)]
  rw [added]
  exact List.append_ne_nil_of_right_ne_nil _ (List.cons_ne_nil _ _)

/-- What a session prints when a line asks it for its history; that line is in the history by then. -/
theorem written_history (asks : Text.words text = ["history"]) :
    (session.delivery ⟨text, palette, .unlimited⟩).written =
      writtenLines (numberedLines
        (session.afterLine ⟨text, palette, .unlimited⟩).history.entries) := by
  have accepted := acceptedCall?_history asks
  generalize historyCall = call at accepted
  have notEmpty : (session.after (.record call.normalized)).history.entries ≠ [] :=
    entries_after_ne_nil (acceptedCall?_eq_some_iff.1 accepted).1
  have prints : segments (session.carryOut call .history).effects =
      (numberedLines (session.after (.record call.normalized)).history.entries).map
        Segment.line := by
    rw [segments_carryOut, segments_history notEmpty]
    exact List.append_nil _
  have remains : (session.afterLine ⟨text, palette, .unlimited⟩).history =
      (session.after (.record call.normalized)).history :=
    history_afterLine accepted
  rw [remains, delivery, written_deliver_unlimited, reply_of_accepted accepted, prints,
    List.flatMap_map]
  rfl

/-- A session that starts with an empty history and is asked for it after some turns prints lines
that lead to the same history when they are read again. -/
theorem replays_printedHistory (files : FileSystem) (dir : WorkingDirectory) (turns : List Turn)
    (text : String) (palette : Palette) (asks : Text.words text = ["history"]) :
    let session := (⟨files, dir, {}⟩ : Session).afterTurns turns
    let line : Line := ⟨text, palette, .unlimited⟩
    Replays (session.delivery line).written (session.afterLine line).history.entries
      ((turns ++ [Turn.read line]).filterMap Turn.called?) := by
  intro session line
  -- The request is one more turn of the session.
  have entries : (session.afterLine line).history.entries =
      (turns ++ [Turn.read line]).filterMap Turn.recorded? := by
    have last : session.afterLine line =
        (⟨files, dir, {}⟩ : Session).afterTurns (turns ++ [Turn.read line]) :=
      (List.foldl_concat afterTurn _ (Turn.read line) turns).symm
    rw [last, entries_afterTurns]
    exact List.nil_append _
  rw [written_history asks, entries]
  exact replays_writtenLines (fun entry mem => exists_entryOf?_of_mem mem)
    (map_normalized_called? _) (fun call mem => ofLine?_of_mem_called? mem)

/-- Some turns of a session: two lines that are carried out, one of them in vain and one without
room for output, a change of the files, and a line that calls nothing. -/
def mixedTurns : List Turn :=
  [.read ⟨"  touch\u3000 f ", .colored, ⟨some 0, .refused .other, none⟩⟩, .change .empty,
    .read ⟨"nope", .plain, .unlimited⟩, .read ⟨"rm\tg", .plain, .unlimited⟩]

theorem replays_printedHistory_mixedTurns :
    Text.words " history" = ["history"] ∧
      (((⟨.empty, ⟨.ofString "/", none⟩, {}⟩ : Session).afterTurns mixedTurns).delivery
        ⟨" history", .plain, .unlimited⟩).written =
          Text.encode "1 touch f\n2 rm g\n3 history\n" ∧
      (mixedTurns ++ [Turn.read ⟨" history", .plain, .unlimited⟩]).filterMap Turn.called? =
        [⟨"touch", ["f"]⟩, ⟨"rm", ["g"]⟩, ⟨"history", []⟩] ∧
      Replays (((⟨.empty, ⟨.ofString "/", none⟩, {}⟩ : Session).afterTurns mixedTurns).delivery
          ⟨" history", .plain, .unlimited⟩).written
        (((⟨.empty, ⟨.ofString "/", none⟩, {}⟩ : Session).afterTurns mixedTurns).afterLine
          ⟨" history", .plain, .unlimited⟩).history.entries
        ((mixedTurns ++ [Turn.read ⟨" history", .plain, .unlimited⟩]).filterMap Turn.called?) := by
  have asks : Text.words " history" = ["history"] := by decide +kernel
  exact ⟨asks, by decide +kernel, by decide +kernel,
    replays_printedHistory .empty ⟨.ofString "/", none⟩ mixedTurns " history" .plain asks⟩

end Session

end LineShell
