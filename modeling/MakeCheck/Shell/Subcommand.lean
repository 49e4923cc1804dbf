import MakeCheck.Program.Run
import MakeCheck.Shell.Passage

namespace MakeCheck.Shell

namespace Step

-- Gives a process what an errand asks for: variables, a directory, and an input.
def equip (step : Step) (errand : Program.Errand) : Step :=
  let bare := step.process
  let named := match errand.environment with
    | some bindings => { bare with bindings, exported := bindings.map Prod.fst }
    | none => bare
  let placed := match errand.directory with
    | some directory => { named with directory }
    | none => named
  let traps := errand.ignored.map fun signal => (signal, "")
  let ready := { step with process := { placed with traps := traps ++ placed.traps } }
  match errand.input with
  | none => ready
  | some [] => ready.openOn 0 (.device .null)
  | some bytes => ready.openOn 0 (.coming [(0, bytes)] 0 false)

def captured (step : Step) (errand : Program.Errand) : Nat × Step :=
  if errand.captures then
    let ready := step.openOn 1 (.kept [] .endless false)
    (ready.trace.openings - 1, ready)
  else (step.trace.openings, step)

def limited (step : Step) (errand : Program.Errand) : Step :=
  match errand.limit with
  | none => step
  | some limit =>
      let last := step.process.time + limit
      let deadline := (step.process.deadline.map fun other => min other last).getD last
      { step with process := { step.process with deadline := some deadline } }

-- Finds the program of an errand. What the system cannot run but may read is taken for a script.
def find (step : Step) (errand : Program.Errand) : Except Fault Program.Loaded :=
  let search := Program.searchPath (step.process.value? "PATH")
  let name := errand.words.headD ""
  match Program.load step.trace.files step.process.directory search name errand.words.tail with
  | .error .execFormat => .ok ⟨.shell, name, errand.words⟩
  | found => found

-- The file that the name of a program leads to first, even if it cannot be run.
def fileOf? (step : Step) (name : String) : Option String :=
  if '/' ∈ name.toList then some name
  else if name = "" then none
  else
    let search := Program.searchPath (step.process.value? "PATH")
    let paths := search.map fun entry => if entry = "" then name else entry ++ "/" ++ name
    let isThere (path : String) : Bool := step.trace.files.isFile step.process.directory ⟨path⟩
    let runs (path : String) : Bool :=
      ((step.trace.files.find step.process.directory ⟨path⟩).toOption.map
        fun entry => entry.2.isExecutable).getD false
    (paths.find? fun path => isThere path && runs path).or (paths.find? isThere)

-- What the extended dialect says of a program that it cannot start, and the status that this gives.
-- The name of the file comes with the reason.
def startTrouble (step : Step) (name : String) (fault : Fault) : String × String × Nat :=
  match step.fileOf? name with
  | none => (name, "command not found", 127)
  | some path =>
      match step.trace.files.find step.process.directory ⟨path⟩ with
      | .error fault => (path, fault.reason, if fault = .notFound then 127 else 126)
      | .ok (_, node) =>
          if node.content == .directory then (path, Fault.isADirectory.reason, 126)
          else if !node.isExecutable then (path, fault.reason, 126)
          else if fault = .notFound then (path, "cannot execute: required file not found", 127)
          else
            let bytes := match node.content with
              | .file bytes => bytes
              | _ => []
            let interpreter := ((Program.interpreter? bytes).map (·.1)).getD ""
            (path, interpreter ++ ": bad interpreter: " ++ fault.reason, 126)

def refusal (step : Step) (fault : Fault) : Program.Reply :=
  { result := .error fault
    isLate := false
    output := []
    files := step.trace.files
    now := step.trace.now + step.process.time }

-- What is told of an errand that is over, and how the one goes on who has started it.
def replyTo (inner outer : Step) (errand : Program.Errand) (number : Nat) :
    Program.Reply × Step :=
  let last := errand.limit.map (outer.process.time + ·)
  let isLate := match last with
    | some last =>
        decide (last < inner.process.time) && outer.process.deadline.all (last < ·)
    | none => false
  let time := if isLate then last.getD inner.process.time else inner.process.time
  let stopped := if isLate then inner.trace.stopSince outer.trace.started time else inner.trace
  let output := (stopped.keptChunks number).flatMap (·.2)
  let back : Step :=
    { process := { outer.process with time }
      trace := stopped
      flow := .going }
  let isOver := !isLate && outer.process.deadline.any (· < inner.process.time)
  let reply : Program.Reply :=
    { result := .ok inner.ending
      isLate
      output
      files := stopped.files
      now := stopped.now + time }
  (reply, (if isOver then { back with flow := .struck 9 } else back).forgetOpened
    outer.trace.openings)

-- What a program gets to see of the shell that starts it. The extended dialect tells it where the
-- program lies.
def withProgram (step : Step) (name : String) : Step :=
  let process := step.process
  let told := if process.isExtended then
      (process.assign "_" ((step.fileOf? name).getD name)).expose "_"
    else process
  { step with process := told.tabled }

end Step

-- Finds a program by its name. What the system cannot run but may read is taken for a script in the
-- dialect of the shell.
def loadProgram (name : String) (arguments : List String) (step : Step) :
    Except Fault Program.Loaded :=
  let search := Program.searchPath (step.process.value? "PATH")
  let found := Program.load step.trace.files step.process.directory search name arguments
  match found, step.process.options.dialect with
  | .error .execFormat, .plain => .ok ⟨.shell, name, name :: arguments⟩
  | .error .execFormat, .extended => .ok ⟨.bash, name, name :: arguments⟩
  | found, _ => found

end MakeCheck.Shell
