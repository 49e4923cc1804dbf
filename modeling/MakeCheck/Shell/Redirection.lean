import MakeCheck.Shell.Builtin

namespace MakeCheck.Shell

open Text

-- Undoes redirections: the channels that they name lead to where they led before.
def Process.restored (process before : Process) (redirects : List Redirect) : Process :=
  redirects.foldl
    (fun (process : Process) redirect =>
      match redirect with
      | .to channel kind _ =>
          let back := process.restore before channel
          if kind matches .everything _ then back.restore before 2 else back)
    process

-- Forgets what was opened since, unless the process has it still.
def Step.forgetOpened (step : Step) (openings : Nat) : Step :=
  { step with trace := step.trace.forget openings (step.process.channels.map (·.2)) }

-- Goes on behind a command with redirections as if there had been none.
def Step.undo (step before : Step) (redirects : List Redirect) : Step :=
  if redirects.isEmpty then step
  else
    let process := step.process.restored before.process redirects
    { step with process }.forgetOpened before.trace.openings

def Step.openOn (step : Step) (channel : Nat) (opened : Opened) : Step :=
  let (number, trace) := step.trace.add opened
  { step with process := step.process.connect channel number, trace }

-- The words of the shell for a file that it cannot make.
def creationFault : Fault → String
  | .notFound | .notADirectory => "Directory nonexistent"
  | fault => fault.reason

def openingFault : Fault → String
  | .notFound | .notADirectory => "No such file"
  | fault => fault.reason

-- Why a redirection fails: for a reason that is told, or because it names no channel at all, which
-- ends the script.
inductive RedirectFault where
  | refused (message : String)
  | noChannel
deriving DecidableEq

def channelAt? (target : String) : Option Nat :=
  match target with
  | "/dev/stdin" => some 0
  | "/dev/stdout" => some 1
  | "/dev/stderr" => some 2
  | _ =>
      if "/dev/fd/".isPrefixOf target && isNumber (target.drop 8).toString then
        some (numberOf (target.drop 8).toString)
      else none

def duplicate (channel source : Nat) (name : String) (step : Step) : Except RedirectFault Step :=
  match step.process.channel? source with
  | some number => .ok { step with process := step.process.connect channel number }
  | none => .error (.refused (name ++ ": Bad file descriptor"))

-- Nobody reads a queue before it is opened for that. What was written to it comes then.
def openQueue (channel : Nat) (location : Location) (writes : Bool) (step : Step) : Step :=
  match step.trace.queues.lookup location with
  | some number =>
      if writes then { step with process := step.process.connect channel number }
      else
        let chunks := step.trace.keptChunks number
        let last := max (step.trace.heldUntil number)
          (chunks.foldl (fun time chunk => max time chunk.1) 0)
        let queues := step.trace.queues.filter fun entry => entry.1 != location
        { step with trace := { step.trace with queues } }.openOn channel (.coming chunks last false)
  | none =>
      if writes then
        let opened := step.openOn channel (.kept [] .endless false)
        let number := opened.trace.openings - 1
        let queues := (location, number) :: opened.trace.queues
        { opened with trace := { opened.trace with queues } }
      else step.loseItself

-- Opens a file. The last flag tells that one that is missing is made, and whether it is emptied.
def openFile (channel : Nat) (target : String) (access : Access) (makes : Option Bool)
    (step : Step) : Except RedirectFault Step :=
  let files := step.trace.files
  let directory := step.process.directory
  let wording (fault : Fault) : RedirectFault :=
    .refused (if step.process.isExtended then target ++ ": " ++ fault.reason
      else if makes.isSome then "cannot create " ++ target ++ ": " ++ creationFault fault
      else "cannot open " ++ target ++ ": " ++ openingFault fault)
  match channelAt? target with
  | some source => duplicate channel source target step
  | none =>
      match files.find directory ⟨target⟩, makes with
      | .ok (_, { content := .device kind, .. }), _ => .ok (step.openOn channel (.device kind))
      | .ok (location, { content := .queue _, .. }), _ =>
          .ok (openQueue channel location access.writes step)
      | .ok (location, node), none | .ok (location, node), some false =>
          if access.writes && node.content == .directory then .error (wording .isADirectory)
          else .ok (step.openOn channel (.file location 0 access))
      | .error fault, none => .error (wording fault)
      | _, some _ =>
          let mode := Mode.without step.process.mask FileStore.fileMode
          let now := step.trace.now + step.process.time
          match files.writeAs directory ⟨target⟩ [] mode now, files.resolve directory ⟨target⟩ with
          | .ok files, .ok location =>
              .ok ({ step with trace := { step.trace with files } }.openOn channel
                (.file location 0 access))
          | .error fault, _ | _, .error fault => .error (wording fault)

-- Opens a file for output that is emptied before, unless it has to stay as it is.
def overwrite (channel : Nat) (target : String) (always : Bool) (step : Step) :
    Except RedirectFault Step :=
  let isThere := step.trace.files.isFile step.process.directory ⟨target⟩
  if !always && isThere && step.process.options.keepsFiles then
    .error (.refused (if step.process.isExtended then target ++ ": cannot overwrite existing file"
      else "cannot create " ++ target ++ ": File exists"))
  else openFile channel target ⟨false, true, false⟩ (some true) step

def openForAll (target : String) (appends : Bool) (step : Step) : Except RedirectFault Step := do
  let opened ← if appends then openFile 1 target ⟨false, true, true⟩ (some false) step
    else overwrite 1 target false step
  duplicate 2 1 target opened

-- Leads a channel to where another one leads, which may be closed then. Output may lead to a file.
def duplicateTo (channel : Nat) (target : String) (step : Step) : Except RedirectFault Step :=
  let digits := (target.dropEnd 1).toString
  if target = "-" then .ok { step with process := step.process.close channel }
  else if !step.process.isExtended then
    if target.length = 1 ∧ isNumber target then duplicate channel (numberOf target) target step
    else .error .noChannel
  else if isNumber target then duplicate channel (numberOf target) target step
  else if target.endsWith "-" && isNumber digits then do
    let source := numberOf digits
    let moved ← duplicate channel source digits step
    if source = channel then return moved
    else return { moved with process := moved.process.close source }
  else if channel = 1 then openForAll target false step
  else .error (.refused (target ++ ": ambiguous redirect"))

-- Opens a channel. The text of a document is its own target.
def redirectTo (channel : Nat) (kind : RedirectKind) (target : String) (step : Step) :
    Except RedirectFault Step :=
  let text (text : String) : Except RedirectFault Step :=
    .ok (step.openOn channel (.coming [(0, Utf8.encode text)] 0 false))
  match kind with
  | .duplicate => duplicateTo channel target step
  | .overwrite always => overwrite channel target always step
  | .append => openFile channel target ⟨false, true, true⟩ (some false) step
  | .update => openFile channel target ⟨true, true, false⟩ (some false) step
  | .input => openFile channel target ⟨true, false, false⟩ none step
  | .document => text target
  | .line => text (target ++ "\n")
  | .everything appends => openForAll target appends step

end MakeCheck.Shell
