import MakeCheck.Shell.Condition
import MakeCheck.Shell.Source
import MakeCheck.Shell.Subcommand

namespace MakeCheck.Shell

open Text

-- What a text is that is run as a script: the script that a shell was given, a file, or what a
-- command of the shell asks to be run.
inductive Medium where
  | script
  | file
  | command (name : String)
deriving DecidableEq

-- Where the reading of a text begins. What a command runs counts as a part of its line.
def Step.cursor (step : Step) (medium : Medium) (text : String) : Cursor :=
  let process := step.process
  let line := match medium, process.options.dialect with
    | .command _, .extended => process.line
    | _, _ => 1
  let isOpen := (text.toList.reverse.takeWhile (· == '\\')).length % 2 == 1
  let adds := process.isExtended && text != "" && !text.endsWith "\n" && !isOpen
  { Cursor.ofText (if adds then text ++ "\n" else text) with
    dialect := process.options.dialect
    line
    openLine := line }

-- Says what the reading has found, before the commands run.
def Step.warn (step : Step) (warnings : List (Nat × String)) : Step :=
  warnings.reverse.foldl
    (fun (step : Step) (line, text) =>
      let before := step.process.line
      ((step.onLine line).complain ("warning: " ++ text)).onLine before)
    step

-- What of the shell counts for how the next line is read.
def Step.prepare (step : Step) (cursor : Cursor) : Cursor :=
  let options := step.process.options
  let renames := !step.process.isExtended || options.isSwitched "expand_aliases"
  { cursor with
    aliases := if renames then step.process.aliases else []
    hasGroups := step.process.isExtended && options.isSwitched "extglob" }

-- Complains about a text that is no script. The extended dialect may show the line as well.
def Step.tellFault (step : Step) (medium : Medium) (cursor : Cursor) (fault : SyntaxFault) : Step :=
  let process := step.process
  if !process.isExtended then
    let message := (fault.messages.map (·.2)).headD ""
    (step.onLine fault.line).fail ("Syntax error: " ++ message)
  else
    let place := match medium with
      | .script => [process.scriptName, "-c"]
      | .file => [process.scriptName]
      | .command name => [process.scriptName, name]
    let front (line : Nat) : String :=
      ": ".intercalate (place ++ ["line " ++ toString line]) ++ ": "
    let lines := cursor.rest.splitOn '\n'
    let line := String.ofList ((lines[fault.line - cursor.line]?).getD [])
    let shown := if fault.showsLine then [(fault.line, "\x60" ++ line ++ "\x27")] else []
    let text := String.join ((fault.messages ++ shown).map fun (line, message) =>
      front line ++ message ++ "\n")
    let status := if medium matches .command _ then 2 else fault.status
    { (step.writeErrors (Utf8.encode text)).withStatus status with flow := .failed }

-- What the commands of a pipe have told, where there is only one.
def Step.recorded (step : Step) : Step :=
  let pipe := [step.process.status]
  { step with process := { step.process with extras := { step.process.extras with pipe } } }

def Step.holding (step : Step) (isHeld : Bool) : Step :=
  let extras := { step.process.extras with isHeld }
  { step with process := { step.process with extras } }

-- Notes the command that runs now, unless it stands still.
def Step.noting (step : Step) (command : String) : Step :=
  if step.process.extras.isHeld then step
  else
    let extras := { step.process.extras with command }
    { step with process := { step.process with extras } }

def errorEvent : Nat := 1001
def commandEvent : Nat := 1002
def returnEvent : Nat := 1003

def Process.isInFunction (process : Process) : Bool :=
  !process.locals.isEmpty

-- How deep functions of the extended dialect may call one another.
def maxWideCalls : Nat := 8000

-- The last field of a command is kept for the next one.
def Step.keepLast (step : Step) (word : String) : Step :=
  if step.process.constant.contains "_" then step
  else { step with process := step.process.assign "_" word }

def timeTable (nanos : Nat) : String :=
  let shown (nanos : Nat) : String :=
    let millis := nanos / 1000000
    let digits := toString (millis % 1000)
    toString (millis / 60000) ++ "m" ++ toString (millis / 1000 % 60) ++ "." ++
      String.ofList (List.replicate (3 - digits.length) '0') ++ digits ++ "s"
  "\nreal\t" ++ shown nanos ++ "\nuser\t" ++ shown 0 ++ "\nsys\t" ++ shown 0 ++ "\n"

mutual

-- Runs a script. The first argument bounds the depth of the run. Where it is used up the script
-- never ends. The flag tells that the status is asked for.
def run : Nat → Bool → Script → Step → Step
  | 0, _, _, step => step.loseItself
  | fuel + 1, tested, script, step =>
      if !step.isGoing || step.process.options.runsNothing then step
      else
        let perform : Performer := fun body inner => finish fuel (run fuel false body inner)
        let after := (runScript fuel tested script step).settled
        if after.process.extras.passages.length = step.process.extras.passages.length then after
        else closePassages perform step after

def runScript : Nat → Bool → Script → Step → Step
  | 0, _, _, step => step.loseItself
  | fuel + 1, tested, script, step =>
      let perform : Performer := fun body inner => finish fuel (run fuel false body inner)
      match script with
      | .nothing => step
      | .simple line assignments words redirects =>
          let process := { step.process with line, substituted := none }
          let begun := { step with process }
          let after :=
            if process.isExtended then
              (runCommand fuel tested assignments words redirects begun).recorded
            else runSimple fuel tested assignments words redirects begun
          judge fuel tested (runCaught fuel after)
      | .subshell line body redirects =>
          let placed := step.onLine line
          let (redirected, fine) := redirectAll perform fuel redirects placed
          if !fine then judge fuel tested (redirected.undo step redirects)
          else
            let inner := { redirected with process := redirected.process.forPart }
            let after := finish fuel (run fuel tested body inner)
            let back := (after.rejoin step.process).forgetOpened step.trace.openings
            judge fuel tested back.recorded
      | .group line body redirects =>
          let placed := step.onLine line
          let (redirected, fine) := redirectAll perform fuel redirects placed
          if !fine then judge fuel tested (redirected.undo step redirects)
          else (run fuel tested body redirected).undo step redirects
      | .sequence first second => run fuel tested second (run fuel tested first step)
      | .both first second =>
          let after := run fuel true first step
          if after.process.status = 0 then run fuel tested second after else after
      | .either first second =>
          let after := run fuel true first step
          if after.process.status = 0 then after else run fuel tested second after
      | .negate body =>
          let after := run fuel true body step
          if !after.isGoing then after
          else after.withStatus (if after.process.status = 0 then 1 else 0)
      | .pipe source target =>
          judge fuel tested (runPipe fuel tested pipeSizes none source target step)
      | .background body =>
          let started := step.trace.started + 1
          let number := step.process.number + started
          let (nothing, trace) := step.trace.add (.device .null)
          let process := { step.process.forPart.connect 0 nothing with
            deadline := none, job := number, time := step.process.time + forkTime }
          let inner := finish fuel (run fuel tested body
            { step with process, trace := { trace with started } })
          let place := step.process.nextPlace
          let job : Job := ⟨number, place, inner.process.time, inner.ending, false⟩
          let others := step.process.jobs.filter fun other => other.place != place
          { process := { step.process with status := 0, jobs := job :: others }
            trace := inner.trace.hold inner.process
            flow := .going }
      | .choice condition yes no =>
          let after := run fuel true condition step
          if !after.isGoing then after
          else if after.process.status = 0 then run fuel tested yes after
          else
            match no with
            | .nothing => after.withStatus 0
            | _ => run fuel tested no after
      | .loop inverted condition body =>
          (runLoop fuel tested inverted condition body 0
            (step.inLoops (step.process.loops + 1))).inLoops step.process.loops
      | .each line name words body =>
          let placed := step.onLine line
          let (values, ready) := expandAll perform fuel words placed
          if !ready.isGoing then ready
          else if values.isEmpty then ready.withStatus 0
          else
            let begun := ready.inLoops (step.process.loops + 1)
            let shown := "for " ++ name ++ " in " ++ " ".intercalate (words.map Word.spelling)
            (runEach fuel tested name shown body values begun).inLoops step.process.loops
      | .select line word cases =>
          let placed := step.onLine line
          let shown := if step.process.isExtended then
              tracedOnErrors perform fuel ("case " ++ Word.spelling word ++ " in") placed
            else placed
          let (text, ready) := expandText perform fuel word shown
          if ready.isGoing then runCases fuel tested false text.toList cases ready else ready
      | .function name body =>
          { step with process := step.process.define name body }.withStatus 0
      | .condition line condition =>
          let (answer, after) :=
            condition.answer perform (tracedOnErrors perform fuel) fuel false (step.onLine line)
          if !after.isGoing then after
          else
            let status := match answer with
              | .ok holds => if holds then 0 else 1
              | .error status => status
            judge fuel tested (after.withStatus status).recorded
      | .reckoning line expression =>
          let (value?, after) := tryReckoning perform fuel expression (step.onLine line)
          if !after.isGoing then after
          else
            let status := match value? with
              | some 0 | none => 1
              | some _ => 0
            let status := if expression.isEmpty then 1 else status
            judge fuel tested (after.withStatus status).recorded
      | .counting line start condition next body =>
          let (value?, begun) := tryReckoning perform fuel start (step.onLine line)
          if value?.isNone then begun
          else
            (runCounting fuel tested condition next body 0
              (begun.inLoops (step.process.loops + 1))).inLoops step.process.loops
      | .timed body =>
          let after := run fuel tested body step
          after.writeErrors (Utf8.encode (timeTable (after.process.time - step.process.time)))

-- A command that fails ends a script that wants it so, after what the script wants to be done then.
def judge : Nat → Bool → Step → Step
  | 0, _, step => step.loseItself
  | fuel + 1, tested, step =>
      let process := step.process
      let isHeard := !process.isInFunction || process.options.has "errtrace"
      let fails := step.isGoing && !tested && process.status != 0
      match fails && isHeard, process.traps.lookup errorEvent with
      | true, some action => (runEvent fuel errorEvent action step).checked tested
      | _, _ => step.checked tested

-- Does what is to be done when something occurs in a script, which keeps its status.
def runEvent : Nat → Nat → String → Step → Step
  | 0, _, _, step => step.loseItself
  | fuel + 1, event, action, step =>
      let before := step.process
      let traps := before.traps.filter fun entry => entry.1 != event
      let quiet := ({ step with process := { before with traps } } : Step).holding true
      let after := quiet.nested fun inner =>
        runLines fuel (.command "trap") (inner.cursor (.command "trap") action) inner
      if !after.isGoing then after
      else
        let changed := after.process.traps.any fun entry => entry.1 == event
        let traps := if changed then after.process.traps
          else (event, action) :: after.process.traps
        let back := after.holding before.extras.isHeld
        { back with process := { back.process with
            traps, status := before.status, line := before.line } }

-- Both ends of a pipe run at the same time. The source is run first, with room for so much of what
-- it writes, and once more where that was too little or where its reader was gone before.
def runPipe : Nat → Bool → List Nat → Option Nat → Script → Script → Step → Step
  | 0, _, _, _, _, _, step => step.loseItself
  | fuel + 1, tested, sizes, closesAt, source, target, step =>
      let (number, trace) := step.trace.add (.kept [] ⟨sizes.head?, closesAt⟩ false)
      let part := { step.process.forPart with time := step.process.time + forkTime }
      let before := finish fuel (run fuel tested source
        { step with process := part.connect 1 number, trace })
      let isOver := (before.trace.opened? number).any (·.isCut)
      let isHungry := before.starves step
      let fed := if isHungry then before.withHunger false else before
      let after := finish fuel (run fuel tested target
        { process := part.connect 0 number
          trace := fed.handOver number (isOver || isHungry)
          flow := .going })
      let wantsMore := after.trace.opened? number == some .starved
      let isLate := (before.trace.keptChunks number).any fun chunk => after.process.time < chunk.1
      let joined := after.joinPipe before step.process (target matches .pipe ..)
      let fasting := if wantsMore && isHungry then joined.withHunger true else joined
      match sizes with
      | _ :: more =>
          if wantsMore && isOver then runPipe fuel tested more closesAt source target step
          else if isLate && closesAt.isNone && !wantsMore then
            runPipe fuel tested sizes (some after.process.time) source target step
          else fasting.forgetOpened step.trace.openings
      | [] => fasting.forgetOpened step.trace.openings

-- A loop has the status of its last round, which is the first number.
def runLoop : Nat → Bool → Bool → Script → Script → Nat → Step → Step
  | 0, _, _, _, _, _, step => step.loseItself
  | fuel + 1, tested, inverted, condition, body, last, step =>
      let (goesOn, after) := afterRound (run fuel true condition step)
      if !goesOn then after
      else if (after.process.status == 0) == inverted then after.withStatus last
      else
        let (goesOn, round) := afterRound (run fuel tested body after)
        if !goesOn then round
        else runLoop fuel tested inverted condition body round.process.status round

-- Runs a script once for each value. The text is what is shown before.
def runEach : Nat → Bool → String → String → Script → List String → Step → Step
  | 0, _, _, _, _, _, step => step.loseItself
  | _, _, _, _, _, [], step => step
  | fuel + 1, tested, name, shown, body, value :: rest, step =>
      let perform : Performer := fun body inner => finish fuel (run fuel false body inner)
      let begun := if step.process.isExtended then tracedOnErrors perform fuel shown step else step
      let given := begun.assign name value
      if given.flow = .failed ∧ given.process.isExtended then given.recover
      else
        let (goesOn, round) := afterRound (run fuel tested body given)
        if goesOn then runEach fuel tested name shown body rest round else round

-- Runs a script as long as an expression is not nought, and reckons another one after each round.
def runCounting : Nat → Bool → Word → Word → Script → Nat → Step → Step
  | 0, _, _, _, _, _, step => step.loseItself
  | fuel + 1, tested, condition, next, body, last, step =>
      let perform : Performer := fun body inner => finish fuel (run fuel false body inner)
      match tryReckoning perform fuel condition step with
      | (none, after) => after
      | (some 0, after) => after.withStatus last
      | (some _, after) =>
          let (goesOn, round) := afterRound (run fuel tested body after)
          if !goesOn then round
          else
            match tryReckoning perform fuel next round with
            | (none, after) => after
            | (some _, after) =>
                runCounting fuel tested condition next body round.process.status after

-- Runs the first of the cases that fits a text, and those that it goes on with. The second flag
-- tells that a case has been run.
def runCases : Nat → Bool → Bool → List Char → List (List Word × Script × Continuation) → Step →
    Step
  | 0, _, _, _, _, step => step.loseItself
  | _, _, hasRun, _, [], step => if hasRun then step else step.withStatus 0
  | fuel + 1, tested, hasRun, text, (patterns, body, next) :: rest, step =>
      let (fits, after) := fitsAny fuel text patterns step
      if !after.isGoing then after
      else if !fits then runCases fuel tested hasRun text rest after
      else runCase fuel tested text body next rest after

def runCase : Nat → Bool → List Char → Script → Continuation →
    List (List Word × Script × Continuation) → Step → Step
  | 0, _, _, _, _, _, step => step.loseItself
  | fuel + 1, tested, text, body, next, rest, step =>
      let after := match body with
        | .nothing => step.withStatus 0
        | _ => run fuel tested body step
      if !after.isGoing then after
      else
        match next, rest with
        | .stop, _ | .proceed, [] => after
        | .compare, _ => runCases fuel tested true text rest after
        | .proceed, (_, body, next) :: rest => runCase fuel tested text body next rest after

def fitsAny : Nat → List Char → List Word → Step → Bool × Step
  | 0, _, _, step => (false, step.loseItself)
  | _, _, [], step => (false, step)
  | fuel + 1, text, pattern :: rest, step =>
      let perform : Performer := fun body inner => finish fuel (run fuel false body inner)
      let (marked, after) := expandMarked perform fuel pattern step
      let options := after.process.options
      let fits := if after.process.isExtended then marked.fitsBy (options.textRules false) text
        else Marked.fits marked text
      if fits then (true, after) else fitsAny fuel text rest after

def runCaught : Nat → Step → Step
  | 0, step => step.loseItself
  | fuel + 1, step =>
      match step.process.caught with
      | [] => step
      | action :: rest =>
          let status := step.process.status
          let ready := { step with process := { step.process with caught := rest } }
          let after := (Step.holding ready true).nested fun inner =>
            runLines fuel (.command "trap") (inner.cursor (.command "trap") action) inner
          let back := after.holding step.process.extras.isHeld
          runCaught fuel (if back.isGoing then back.withStatus status else back)

-- Assigns variables from left to right. The texts are what is shown of it.
def assignAll : Nat → Bool → List Assignment → Step → List String × Step
  | 0, _, _, step => ([], step.loseItself)
  | _, _, [], step => ([], step)
  | fuel + 1, exposed, .to name _ _ word :: rest, step =>
      let perform : Performer := fun body inner => finish fuel (run fuel false body inner)
      let (text, after) := expandValue perform fuel word step
      let assigned := after.assign name text
      let process := if exposed then assigned.process.expose name else assigned.process
      let (texts, last) := assignAll fuel exposed rest { assigned with process }
      ((name ++ "=" ++ text) :: texts, last)

def runSimple : Nat → Bool → List Assignment → List Word → List Redirect → Step → Step
  | 0, _, _, _, _, step => step.loseItself
  | fuel + 1, tested, assignments, words, redirects, step =>
      let perform : Performer := fun body inner => finish fuel (run fuel false body inner)
      let (items, ready) := expandCommand perform fuel words step
      let fields := items.map Declared.argument
      if !ready.isGoing then ready
      else
        let (redirected, fine) := redirectAll perform fuel redirects ready
        let isSpecial := fields.head?.any specialBuiltins.contains
        if !redirected.isGoing then redirected
        else if !fine then
          let back := redirected.undo ready redirects
          if isSpecial then { back with flow := .failed } else back
        else
          let exposed := !fields.isEmpty && !isSpecial
          let (texts, assigned) := assignAll fuel exposed assignments redirected
          let shown := assigned.showCommand (ready.process.channel? 2) (texts ++ fields)
          if !assigned.isGoing then assigned
          else
            match items with
            | [] =>
                let back := shown.undo ready redirects
                back.withStatus (back.process.substituted.getD 0)
            | first :: arguments =>
                let name := first.argument
                let begun := shown.spend builtinTime
                if !begun.isGoing then begun
                else
                  let keeps := isSpecial || assignments.isEmpty
                  let after := runNamed fuel tested true name arguments begun
                  let back := if name = "exec" ∧ arguments.isEmpty then after
                    else after.undo ready redirects
                  if keeps then back
                  else
                    let process := assignments.foldl
                      (fun (process : Process) assignment =>
                        match ready.process.value? assignment.name with
                        | some value => process.assign assignment.name value
                        | none => process.unset assignment.name)
                      back.process
                    { back with process := { process with exported := ready.process.exported } }

-- Runs a command of the extended dialect. What is assigned in front of it is for the command only.
def runCommand : Nat → Bool → List Assignment → List Word → List Redirect → Step → Step
  | 0, _, _, _, _, step => step.loseItself
  | fuel + 1, tested, assignments, words, redirects, step =>
      let perform : Performer := fun body inner => finish fuel (run fuel false body inner)
      let noted := step.noting (" ".intercalate (assignments.map Assignment.spelling ++
        words.map Word.spelling ++ redirects.map Redirect.spelling))
      let heard :=
        match noted.process.traps.lookup commandEvent with
        | some action =>
            if noted.process.isInFunction && !noted.process.options.has "functrace" then noted
            else runEvent fuel commandEvent action noted
        | none => noted
      let (items, ready) := expandCommand perform fuel words heard
      let fields := items.map Declared.argument
      if !ready.isGoing then ready
      else
        match items with
        | [] =>
            let assigned := giveAll perform fuel false assignments ready
            if !assigned.isGoing then assigned
            else
              let (redirected, fine) := redirectAll perform fuel redirects assigned
              let back := redirected.undo assigned redirects
              if !fine then back
              else (back.keepLast "").withStatus (back.process.substituted.getD 0)
        | first :: arguments =>
            let name := first.argument
            let outers := (assignments.map Assignment.name).eraseDups.map ready.process.outer
            let given := (giveAll perform fuel true assignments ready).recover
            let shown := tracedOnErrors perform fuel (" ".intercalate (fields.map tracedWord)) given
            let (redirected, fine) := redirectAll perform fuel redirects shown
            let begun := redirected.spend builtinTime
            let after := if fine && begun.isGoing then
                runNamed fuel tested true name arguments begun
              else redirected
            let back := if name = "exec" ∧ arguments.isEmpty ∧ fine then after
              else after.undo ready redirects
            let process := outers.foldl Process.bringBack back.process
            { back with process }.keepLast (fields.getLast?.getD "")

def runFunction : Nat → Bool → String → Script → List String → Step → Step
  | 0, _, _, _, _, step => step.loseItself
  | fuel + 1, tested, name, body, arguments, step =>
      let process := step.process
      let calls := process.locals.length
      if !process.isExtended && decide (maxCalls ≤ calls) then
        step.fail ("Maximum function recursion depth (" ++ toString maxCalls ++ ") reached")
      else if maxWideCalls ≤ calls then { step with flow := .struck 11 }
      else
        let inner := run fuel tested body
          { step with process := process.enterFunction name arguments }
        let flow := if inner.flow = .returning then .going else inner.flow
        let returned := { inner with flow }
        let event := returned.process.traps.lookup returnEvent
        let after := match event with
          | some action =>
              if event = process.traps.lookup returnEvent then returned
              else runEvent fuel returnEvent action returned
          | none => returned
        { after with process := after.process.leaveFunction process }

-- Runs a command by its name: a function, a command of the shell or a program. The second flag
-- tells whether functions count.
def runNamed : Nat → Bool → Bool → String → List Declared → Step → Step
  | 0, _, _, _, _, step => step.loseItself
  | fuel + 1, tested, findsFunctions, name, items, step =>
      let dialect := step.process.options.dialect
      let arguments := items.map Declared.argument
      let function? :=
        if findsFunctions && !dialect.specialBuiltins.contains name then
          step.process.functions.lookup name
        else none
      match function?, name, arguments with
      | some body, _, _ => runFunction fuel tested name body arguments step
      | none, "exec", [] => step.withStatus 0
      | none, "exec", words =>
          match dialect with
          | .plain =>
              let named := step.performing (some "exec")
              let after := runProgram fuel (words.headD "") words.tail named
              match after.flow with
              | .struck _ => after
              | _ =>
                  -- A program that cannot be started ends the script as well.
                  { after with flow := .ended after.process.status }
          | .extended => become fuel words step
      | none, "eval", words =>
          match dialect with
          | .plain =>
              let begun := (step.withStatus 0).performing (some name)
              let text := " ".intercalate words
              (begun.nested (runLines fuel (.command name) (.ofText text))).performing
                step.process.running
          | .extended =>
              let text := " ".intercalate words
              let isBlank := text.toList.all fun c => c == ' ' || c == '\t' || c == '\n'
              if isBlank then step.withStatus 0
              else
                (step.nested fun inner =>
                  runLines fuel (.command name) (inner.cursor (.command name) text) inner).recover
      | none, ".", words =>
          match dialect with
          | .plain => runFile fuel words step
          | .extended => runSource fuel name words step
      | none, "source", words =>
          match dialect with
          | .plain => runOther fuel name items step
          | .extended => runSource fuel name words step
      | none, "command", words =>
          match dialect with
          | .plain =>
              let begun := step.performing (some name)
              let after := begun.withOptions ['p', 'v', 'V'] words fun letters words =>
                match words with
                | [] => step.withStatus 0
                | inner :: rest =>
                    if letters.contains 'V' then describe true step inner
                    else if letters.contains 'v' then describe false step inner
                    else runNamed fuel tested false inner (rest.map .word) step
              (after.performing step.process.running).recover
          | .extended =>
              let begun := step.performing (some name)
              let usage := "command [-pVv] command [arg ...]"
              let after := begun.withGiven ['p', 'v', 'V'] [] usage words fun letters words =>
                let has (letter : Char) : Bool := letters.any (·.1 == letter)
                if words.isEmpty then step.withStatus 0
                else if has 'v' || has 'V' then locateNames (has 'V') words begun
                else
                  match items.drop (items.length - words.length) with
                  | [] => step.withStatus 0
                  | inner :: rest => runNamed fuel tested false inner.argument rest step
              after.performing step.process.running
      | none, "builtin", inner :: _ =>
          match dialect with
          | .plain => runOther fuel name items step
          | .extended =>
              if extendedNames.contains inner then
                runNamed fuel tested false inner items.tail step
              else
                ((step.performing (some name)).refuse 1
                  (inner ++ ": not a shell builtin")).performing step.process.running
      | none, _, _ => runOther fuel name items step

-- Runs a command of the shell that runs no script, or a program.
def runOther : Nat → String → List Declared → Step → Step
  | 0, _, _, step => step.loseItself
  | fuel + 1, name, items, step =>
      let arguments := items.map Declared.argument
      let begun := step.performing (some name)
      let performed? : Option Step :=
        match step.process.options.dialect, name with
        | .plain, _ => builtin? name arguments begun
        | .extended, "declare" | .extended, "typeset" | .extended, "local" =>
            some (declareVariables name items begun)
        | .extended, "export" => some (exportVariables items begun)
        | .extended, "readonly" => some (fixVariables items begun)
        | .extended, "builtin" => some (begun.withStatus 0)
        | .extended, _ => extension? name arguments begun
      match performed? with
      | some after =>
          let back := after.performing step.process.running
          if step.process.options.dialect.specialBuiltins.contains name then back
          else back.recover
      | none =>
          let inner := runProgram fuel name arguments step
          inner.reap step.process

def runFile : Nat → List String → Step → Step
  | 0, _, step => step.loseItself
  | _, [], step => step.withStatus 0
  | fuel + 1, file :: _, step =>
      let path := if '/' ∈ file.toList then some file
        else
          let search := Program.searchPath (step.process.value? "PATH")
          (search.map fun entry => if entry = "" then file else entry ++ "/" ++ file).find?
            fun path => step.trace.files.isFile step.process.directory ⟨path⟩
      match path with
      | none => (step.performing (some ".")).fail (file ++ ": not found")
      | some path =>
          match step.trace.files.sample step.process.directory ⟨path⟩ with
          | .error fault =>
              (step.performing (some ".")).fail
                ("cannot open " ++ path ++ ": " ++ openingFault fault)
          | .ok bytes =>
              let begun := (step.withStatus 0).performing (some path)
              let after : Step :=
                begun.nested (runLines fuel .file (.ofText (Utf8.decodeLossy bytes)))
              let flow := if after.flow = .returning then .going else after.flow
              { after.performing step.process.running with flow }

-- Runs a file of the extended dialect, which may have arguments of its own.
def runSource : Nat → String → List String → Step → Step
  | 0, _, _, step => step.loseItself
  | fuel + 1, name, words, step =>
      let process := step.process
      let begun := step.performing (some name)
      match if words.head? = some "--" then words.tail else words with
      | [] =>
          let told := begun.complain "filename argument required"
          (told.explain (name ++ " filename [arguments]")).performing process.running
      | file :: arguments =>
          let search := Program.searchPath (process.value? "PATH") ++ [""]
          let paths := search.map fun entry => if entry = "" then file else entry ++ "/" ++ file
          let found := paths.find? fun path => step.trace.files.isFile process.directory ⟨path⟩
          let path := if '/' ∈ file.toList then file else found.getD file
          match step.trace.files.sample process.directory ⟨path⟩ with
          | .error .isADirectory =>
              (begun.refuse 1 (path ++ ": is a directory")).performing process.running
          | .error fault => step.refuse 1 (file ++ ": " ++ fault.reason)
          | .ok bytes =>
              let extras := { process.extras with
                calls := ("source", process.line, path) :: process.extras.calls
                label := path }
              let given := if arguments.isEmpty then process.arguments
                else process.arguments.take 1 ++ arguments
              let inner := { step with process := { process with extras, arguments := given } }
              let after : Step := (inner.nested fun inner =>
                runLines fuel .file (inner.cursor .file (Utf8.decodeLossy bytes)) inner).recover
              let flow := if after.flow = .returning then .going else after.flow
              let kept := { after.process.extras with
                calls := process.extras.calls
                label := process.extras.label }
              let back := if arguments.isEmpty then after.process.arguments else process.arguments
              let last := { after.process with extras := kept, arguments := back }
              { after with process := { last with line := process.line }, flow }

-- Gives the process to a program. One that cannot be started ends the script.
def become : Nat → List String → Step → Step
  | 0, _, step => step.loseItself
  | fuel + 1, words, step =>
      let usage := "exec [-cl] [-a name] [command [argument ...]] [redirection ...]"
      (step.performing (some "exec")).withGiven ['c', 'l'] ['a'] usage words fun options words =>
        match words with
        | [] => step.withStatus 0
        | name :: rest =>
            let process := step.process
            let bare := if options.any (·.1 == 'c') then { process with exported := [] }
              else process
            let level := Program.wholeNumber? (bare.parameter "SHLVL") |>.getD 1
            let ready := { step with process := bare.assign "SHLVL" (toString (level - 1)) }
            match loadProgram name rest ready with
            | .ok loaded =>
                let own := (options.lookup 'a').getD loaded.name
                let after := start fuel { loaded with name := own } (ready.withProgram name)
                match after.flow with
                | .struck _ => after
                | _ => { after with flow := .ended after.process.status }
            | .error fault =>
                let (path, reason, status) := step.startTrouble name fault
                let told :=
                  if reason = "command not found" then
                    (step.performing (some "exec")).complain (path ++ ": not found")
                  else
                    let told := (step.complain (path ++ ": " ++ reason)).performing (some "exec")
                    let last := if reason = Fault.isADirectory.reason then reason else fault.reason
                    told.complain (path ++ ": cannot execute: " ++ last)
                { told.withStatus status with flow := .ended status }

-- Starts a program by its name. What the system cannot run but may read is taken for a script.
def runProgram : Nat → String → List String → Step → Step
  | 0, _, _, step => step.loseItself
  | fuel + 1, name, arguments, step =>
      match loadProgram name arguments step with
      | .ok loaded => start fuel loaded (step.withProgram name)
      | .error fault =>
          if step.process.isExtended then
            let (path, reason, status) := step.startTrouble name fault
            if reason.contains ':' then
              let text := step.process.arguments.headD "" ++ ": " ++ path ++ ": " ++ reason ++ "\n"
              (step.writeErrors (Utf8.encode text)).withStatus status
            else step.refuse status (path ++ ": " ++ reason)
          else
            -- Without a name it is the directories themselves that cannot be run.
            let (reason, status) := if name = "" then (Fault.permissionDenied.reason, 127)
              else startFault fault
            step.refuse status (name ++ ": " ++ reason)

-- Runs a program that was loaded, as the process of the step.
def start : Nat → Program.Loaded → Step → Step
  | 0, _, step => step.loseItself
  | fuel + 1, loaded, step =>
      let begun := { step with process := step.process.forProgram }.spend startTime
      if !begun.isGoing then begun
      else
        match loaded.utility with
        | .shell =>
            let own := { begun with process := begun.process.asShell begun.trace.files }
            let (source, options) := Source.ofArguments loaded.name loaded.arguments
            startShell fuel loaded.name source options own
        | .bash =>
            let own := { begun with process := begun.process.asWideShell begun.trace.files }
            let (source, options) := Source.ofWideArguments loaded.name loaded.arguments
            startShell fuel loaded.name source options own
        | utility =>
            follow fuel loaded.name
              (Program.plan utility loaded.arguments (begun.around loaded.name)) begun

def follow : Nat → String → Program.Plan → Step → Step
  | 0, _, _, step => step.loseItself
  | fuel + 1, own, plan, step =>
      if !step.isGoing then step
      else
        match plan with
        | .finish outcome => step.take outcome
        | .say channel bytes next => follow fuel own next (step.tell [(channel, bytes)]).1
        | .change files next =>
            follow fuel own next { step with trace := { step.trace with files } }
        | .consume next => follow fuel own next (step.readInput .all)
        | .die signal => { step with flow := .struck signal }
        | .become errand refused =>
            let ready := step.equip errand
            match ready.find errand with
            | .error fault => step.take (refused fault)
            | .ok loaded => start fuel loaded ready
        | .start errand next =>
            let (number, ready) := (step.equip errand).captured errand
            match ready.find errand with
            | .error fault =>
                follow fuel own (next (step.refusal fault)) step
            | .ok loaded =>
                let inner := start fuel loaded (ready.limited errand)
                let (reply, back) := inner.replyTo step errand number
                follow fuel own (next reply) back

-- Runs the script that a shell is started with. A process that a signal hits writes no more.
def startShell : Nat → String → Source → Options → Step → Step
  | 0, _, _, _, step => step.loseItself
  | fuel + 1, own, source, options, step =>
      let named (label name : String) (arguments : List String) : Step :=
        let step := if options.dialect = .extended then step.keepLast own else step
        let extras := { step.process.extras with label }
        { step with process := { step.process with
            arguments := name :: arguments, status := 0, line := 0, options, extras } }
      match source with
      | .wrong message => (named "" own []).fail message
      | .told isError text status =>
          let told := if isError then step.writeErrors (Utf8.encode text)
            else (step.writeOutput (Utf8.encode text)).1
          told.withStatus status
      | .script name text arguments =>
          runToEnd fuel .script text (named "environment" name arguments)
      | .input name arguments =>
          let ready := named "main" name arguments
          let bytes := ready.input?.map fun entry => entry.2.content ready.trace.files
          let text := Utf8.decodeLossy ((bytes.bind Except.toOption).getD [])
          runToEnd fuel .file text (ready.readInput .all)
      | .file name arguments =>
          match step.trace.files.sample step.process.directory ⟨name⟩, options.dialect with
          | .ok bytes, .plain =>
              runToEnd fuel .file (Utf8.decodeLossy bytes) (named "" name arguments)
          | .ok bytes, .extended =>
              let begun := named name name arguments
              if (bytes.take 80).contains 0 then
                let text := name ++ ": " ++ name ++ ": cannot execute binary file\n"
                (begun.writeErrors (Utf8.encode text)).withStatus 126
              else
                let extras := { begun.process.extras with calls := [("main", 0, name)] }
                runToEnd fuel .file (Utf8.decodeLossy bytes)
                  { begun with process := { begun.process with extras } }
          | .error fault, .plain =>
              (named "" own []).fail ("cannot open " ++ name ++ ": " ++ openingFault fault)
          | .error fault, .extended =>
              let front := if fault = .isADirectory then name else own
              let text := front ++ ": " ++ name ++ ": " ++ fault.reason ++ "\n"
              let status := if fault = .notFound then 127 else 126
              (step.writeErrors (Utf8.encode text)).withStatus status

def runToEnd : Nat → Medium → String → Step → Step
  | 0, _, _, step => step.loseItself
  | fuel + 1, medium, text, step =>
      finish fuel (runLines fuel medium (step.cursor medium text) step)

-- Does what is to be done at the end of a shell or of a part of it.
def finish : Nat → Step → Step
  | 0, step => step.loseItself
  | fuel + 1, step =>
      match step.flow with
      | .struck _ => step
      | _ =>
          let code := step.process.status
          let traps := step.process.traps
          match traps.lookup 0 with
          | some action =>
              let others := traps.filter fun entry => entry.1 != 0
              let process := { step.process with traps := others, running := none }
              let begun := ({ step with process, flow := .going } : Step).holding true
              let medium : Medium := .command "exit trap"
              let last := runLines fuel medium (begun.cursor medium action) begun
              match last.flow with
              | .ended _ | .struck _ => last
              | .failed => last.exit last.process.status
              | _ => last.exit code
          | none => step.exit code

-- Reads and runs the commands of a text line by line, so that those before a fault are run.
def runLines : Nat → Medium → Cursor → Step → Step
  | 0, _, _, step => step.loseItself
  | fuel + 1, medium, cursor, step =>
      let options := step.process.options
      let shows := options.showsLines && (medium == .file || options.dialect == .extended)
      let showing (text : List Char) : Step :=
        if shows then step.writeErrors (Utf8.encode (String.ofList text)) else step
      match (step.prepare cursor).nextLine with
      | .error fault =>
          let shown := showing (cursor.rest.take (cursor.sizeUpTo fault.line))
          shown.tellFault medium cursor fault
      | .ok (none, _) => showing cursor.rest
      | .ok (some script, rest) =>
          let text := cursor.rest.take (cursor.rest.length - rest.rest.length)
          let shown := showing text
          let process := { shown.process with readLine := rest.line }
          let begun := { shown with process }.warn rest.warnings
          let next := { rest with warnings := [] }
          let after := run fuel false script begun
          let isOutmost := after.process.nesting == 0
          if after.flow = .dropped ∨ (after.flow = .abandoned ∧ isOutmost ∧ medium ≠ .script) then
            runLines fuel medium next { after with flow := .going }
          else if after.isGoing then runLines fuel medium next after
          else after

end

def depth : Nat := 100000

end MakeCheck.Shell
