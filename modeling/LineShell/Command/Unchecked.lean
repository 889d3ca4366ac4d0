import LineShell.Reply

/-!
# Commands on unchecked operands

A command that is carried out directly takes its operands as they stand, each by its place and only
when it needs it. It counts on somebody having checked them: it does not look how many there are, and
where it takes an operand that is not there it breaks off and has done nothing. The copy is the one
command that looks at its operands as a whole once more.
-/

namespace LineShell

namespace Command

/-- The copy that two or three operands ask for. The flag is looked for behind the first operand, of
which there has to be one. -/
def takeCopyOf (operands : List String) : Option (Except UsageError Command) :=
  if 3 < operands.length then some (.error (.tooMany .cp))
  else do
    let later ← operands.tail?
    if later.contains recursiveFlag then some (.error (.lateRecursive .cp))
    else
      match operands with
      | [source, destination] => some (.ok (.cp false source destination))
      | [flag, source, destination] =>
        if flag = recursiveFlag then some (.ok (.cp true source destination))
        else some (.error (.onlyRecursive .cp))
      | _ => some (.error (.tooMany .cp))

/-- The copy that operands ask for. -/
def takeCopy (operands : List String) : Option (Except UsageError Command) :=
  match operands with
  | [] => some (.error (.missingFile .cp))
  | [only] =>
    if only = recursiveFlag then some (.error (.missingFile .cp))
    else some (.error (.missingDestination .cp only))
  | [first, source] =>
    if first = recursiveFlag then some (.error (.missingDestination .cp source))
    else takeCopyOf operands
  | _ => takeCopyOf operands

/-- What a command makes of its operands. There is nothing where it takes one that is not there. -/
def take (operands : List String) : Builtin → Option (Except UsageError Command)
  | .cat => some (.ok (.cat operands))
  | .cd => some (.ok (.cd operands.head?))
  | .cp => takeCopy operands
  | .echo => some (.ok (.echo operands))
  | .exit => some (.ok .exit)
  | .help => some (.ok .help)
  | .history => some (.ok .history)
  | .ls => some (.ok (.ls (operands.head? = some recursiveFlag)))
  | .mkdir => some (.ok (.mkdir operands))
  | .pwd => some (.ok .pwd)
  | .rm => operands[0]?.map fun file => .ok (.rm file)
  | .rmdir => operands[0]?.map fun directory =>
    .ok (if directory = everyOperand then .rmdirAll else .rmdir directory)
  | .touch => operands[0]?.map fun file => .ok (.touch file)

end Command

/-- Carries out a command on operands as they stand: what has come of it, and what follows or what
went wrong. There is nothing if the command breaks off. -/
def Session.execute (session : Session) (palette : Palette) (sink : Sink) (builtin : Builtin)
    (operands : List String) : Option (Delivery × Except CommandError Flow) := do
  match ← Command.take operands builtin with
  | .error error => some (deliver palette sink session [], .error (.usage error))
  | .ok command =>
    let run := command.run session
    let delivery := deliver palette sink session run.effects
    match delivery.fault with
    | some fault => some (delivery, .error (.output fault))
    | none => some (delivery, run.result.mapError .failed)

end LineShell
