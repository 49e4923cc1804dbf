import MakeCheck.Shell.Brace
import MakeCheck.Shell.Chosen
import MakeCheck.Shell.Process
import MakeCheck.Shell.Intake
import MakeCheck.Shell.Passage
import MakeCheck.Shell.Reading
import MakeCheck.Shell.Spelling

namespace MakeCheck.Shell

open Text

-- Runs a script as a process of its own, up to its end.
abbrev Performer := Script → Step → Step

-- The output of a command without the breaks at its end.
def substitute (perform : Performer) (body : Script) (step : Step) : String × Step :=
  let (number, trace) := step.trace.add (.kept [] .endless false)
  let inner := perform body { step with process := step.process.forWord.connect 1 number, trace }
  let bytes := (inner.trace.keptChunks number).flatMap (·.2)
  let text := Utf8.decodeLossy (bytes.filter (· != 0))
  let back := (inner.rejoin step.process).waitUntil (inner.trace.heldUntil number)
  let process := { back.process with
    status := step.process.status
    substituted := some back.process.status }
  (dropBreaks text, { back with process }.forgetOpened step.trace.openings)

def takeFile (path : String) (step : Step) : String × Step :=
  match redirectTo 0 .input path { step with process := step.process.forWord } with
  | .ok opened =>
      let bytes := (opened.input?.map fun entry => entry.2.content opened.trace.files).bind
        Except.toOption
      let process := { step.process with substituted := some 0 }
      (dropBreaks (Utf8.decodeLossy ((bytes.getD []).filter (· != 0))), { step with process })
  | .error (.refused message) =>
      let told := step.complain message
      ("", { told with process := { told.process with substituted := some 1 } })
  | .error .noChannel => ("", step)

-- The file that a part of a word stands for which a command writes or reads.
def passageFile (channel : Nat) : Location :=
  ["dev", "fd", toString channel]

-- How much a command may write to a file before it is stopped that nobody reads to its end.
def passageSize : Nat := Nat.pow 2 17

-- Starts the command of a passage. One that reads is started when the file has been written.
def openPassage (perform : Performer) (writes : Bool) (body : Script) (step : Step) :
    String × Step :=
  let taken := step.process.channels.map (·.1)
  let channel := ((List.range 64).reverse.find? fun channel => !taken.contains channel).getD 63
  let put (bytes : List UInt8) (step : Step) : Step :=
    let now := step.trace.now + step.process.time
    let files := step.trace.files.put ["dev", "fd"] (.ofRoot .directory 0o555 now)
    let files := files.put (passageFile channel) (files.made (.file bytes) 0o600 now)
    { step with trace := { step.trace with files } }
  let keep (number : Nat) (reader : Option Script) (step : Step) : Step :=
    let passage : Passage := ⟨channel, number, reader⟩
    let passages := passage :: step.process.extras.passages
    { step with process := { step.process with extras := { step.process.extras with passages } } }
  let path := "/dev/fd/" ++ toString channel
  if writes then
    let (number, trace) := step.trace.add (.kept [] ⟨some passageSize, none⟩ false)
    let part := { step.process.forWord with time := step.process.time + forkTime }
    let inner := perform body { step with process := part.connect 1 number, trace }
    let last := max (inner.trace.heldUntil number) inner.process.time
    let chunks := inner.trace.keptChunks number
    let filled := inner.trace.change number (.coming chunks last false)
    let process := step.process.connect channel number
    let kept := keep number none { process, trace := filled, flow := .going }
    (path, put (chunks.flatMap (·.2)) kept)
  else
    let (number, trace) := step.trace.add (.kept [] .endless false)
    let process := step.process.connect channel number
    (path, put [] (keep number (some body) { step with process, trace }))

-- Ends the passages of a command that is over. Those that read get what was written to them.
def closePassages (perform : Performer) (before step : Step) : Step :=
  let count := step.process.extras.passages.length - before.process.extras.passages.length
  (step.process.extras.passages.take count).foldl
    (fun (step : Step) passage =>
      let ready :=
        match passage.reader with
        | none => step
        | some body =>
            let place := passageFile passage.channel
            let bytes := match step.trace.files.node? place with
              | some { content := .file bytes, .. } => bytes
              | _ => []
            let chunks := step.trace.keptChunks passage.number ++ [(step.process.time, bytes)]
            let started := step.trace.started + 1
            let part := { step.process.forWord with
              deadline := none, job := step.process.number + started }
            let trace := { step.trace.change passage.number
              (.coming chunks step.process.time false) with started }
            let inner := perform body
              { step with process := part.connect 0 passage.number, trace, flow := .going }
            { step with trace := inner.trace.hold inner.process }
      let extras := { ready.process.extras with
        passages := ready.process.extras.passages.drop 1 }
      let process := { ready.process with extras }.close passage.channel
      let place := if extras.passages.isEmpty then ["dev", "fd"] else passageFile passage.channel
      let files := ready.trace.files.removeTree place (ready.trace.now + ready.process.time)
      { ready with process, trace := { ready.trace with files } })
    step

-- The value of an expression. One that has none ends all commands that were read together.
def reckoned (text : String) (step : Step) : Int × Step :=
  if !step.isGoing then (0, step)
  else
    match step.process.reckon text with
    | .ok (value, process) => (value, { step with process })
    | .error (.unset name) => (0, step.quit (ReckoningFault.message (.unset name)))
    | .error fault => (0, step.drop fault.message)

-- The parameter that a text names, for one that stands for another.
def Origin.ofText? (text : String) : Option Origin :=
  let chars := text.toList
  let name := chars.takeWhile isNameChar
  match chars.drop name.length with
  | [] =>
      if isName name || (!name.isEmpty && name.all Char.isDigit) then some (.name text) else none
  | [c] => if name.isEmpty && Reading.isSpecial c then some (.name text) else none
  | '[' :: rest =>
      if !isName name || rest.getLast? != some ']' then none
      else
        let key := rest.dropLast
        if key = ['@'] ∨ key = ['*'] then some (.all (String.ofList name) (key == ['*']))
        else some (.entry (String.ofList name) [.text true key])
  | _ => none

def Step.pathsOf (step : Step) (marked : Marked) : List String × Step :=
  let process := step.process
  let rules := process.options.pathRules
  if process.options.keepsPatterns then ([marked.text], step)
  else if !process.isExtended then
    (marked.paths step.trace.files process.directory, step)
  else if !marked.isPatternBy rules then ([marked.text], step)
  else
    match marked.pathsBy rules step.trace.files process.directory with
    | [] =>
        if process.options.isSwitched "failglob" then
          ([], step.drop ("no match: " ++ marked.text))
        else if process.options.isSwitched "nullglob" then ([], step)
        else ([marked.text], step)
    | paths => (paths, step)

-- A complaint about a parameter that has no value though it should.
def Step.needParameter (step : Step) (title : String) : Step :=
  if step.process.isExtended then
    let shown := if isNumber title then "$" ++ title else title
    step.quit (shown ++ ": unbound variable")
  else step.fail (title ++ ": parameter not set")

mutual

def expandAll (perform : Performer) : Nat → List Word → Step → List String × Step
  | 0, _, step => ([], step.loseItself)
  | _, [], step => ([], step)
  | fuel + 1, word :: rest, step =>
      let choices := if step.process.options.has "braceexpand" then word.choices else [word]
      let (found, after) := expandEach perform fuel choices step
      if !after.isGoing then (found, after)
      else
        let (others, last) := expandAll perform fuel rest after
        (found ++ others, last)

-- The fields of words in which braces stand for themselves.
def expandEach (perform : Performer) : Nat → List Word → Step → List String × Step
  | 0, _, step => ([], step.loseItself)
  | _, [], step => ([], step)
  | fuel + 1, word :: rest, step =>
      let (fields, after) := addParts perform fuel .values (step.process.withHome word) .none step
      let (found, after) := fields.close.complete.foldl
        (fun (found, step) marked =>
          let (paths, after) := step.pathsOf marked
          (found ++ paths, after))
        (([] : List String), after)
      if !after.isGoing then (found, after)
      else
        let (others, last) := expandEach perform fuel rest after
        (found ++ others, last)

def expandMarked (perform : Performer) : Nat → Word → Step → Marked × Step
  | 0, _, step => ([], step.loseItself)
  | fuel + 1, word, step =>
      let (fields, after) := addParts perform fuel .nothing (step.process.withHome word) .none step
      (fields.growing.getD [], after)

def expandText (perform : Performer) : Nat → Word → Step → String × Step
  | 0, _, step => ("", step.loseItself)
  | fuel + 1, word, step =>
      let (marked, after) := expandMarked perform fuel word step
      (marked.text, after)

def expandValue (perform : Performer) : Nat → Word → Step → String × Step
  | 0, _, step => ("", step.loseItself)
  | fuel + 1, word, step =>
      let (fields, after) :=
        addParts perform fuel .nothing (step.process.withHomes true word) .none step
      ((fields.growing.getD []).text, after)

-- Adds the parts of a word to fields, which grow on or fall apart.
def addParts (perform : Performer) : Nat → Splitting → Word → Fields → Step → Fields × Step
  | 0, _, _, fields, step => (fields, step.loseItself)
  | _, _, [], fields, step => (fields, step)
  | fuel + 1, splitting, part :: rest, fields, step =>
      if !step.isGoing then (fields, step)
      else
        let (fields, after) := addPart perform fuel splitting part fields step
        addParts perform fuel splitting rest fields after

def addPart (perform : Performer) : Nat → Splitting → Part → Fields → Step → Fields × Step
  | 0, _, _, fields, step => (fields, step.loseItself)
  | fuel + 1, splitting, part, fields, step =>
      let separators := step.process.separators
      let splits := splitting != .nothing
      let inner : Splitting := if splits then .everything else .nothing
      let add (quoted : Bool) (value : String) : Fields :=
        if quoted then fields.growAll value.toList
        else if splits then fields.split separators value.toList
        else fields.grow false value.toList
      match part with
      | .text quoted text =>
          if !quoted && splitting == .everything then (fields.split separators text, step)
          else (fields.grow quoted text, step)
      | .arithmetic quoted expression =>
          let (text, after) := expandText perform fuel expression step
          if after.process.isExtended then
            let (value, last) := reckoned text after
            (add quoted (toString value), last)
          else
            match evaluate after.process.parameter? text.toList with
            | .error fault => (fields, after.fail (fault.message text))
            | .ok (value, changes) =>
                let changed := changes.reverse.foldl
                  (fun (step : Step) (name, value) => step.assign name value) after
                (add quoted (toString value), changed)
      | .command quoted body =>
          match step.process.isExtended, body with
          | true, .simple _ [] [] [.to 0 .input target] =>
              let (path, after) := expandText perform fuel target step
              if !after.isGoing then (fields, after)
              else
                let (text, last) := takeFile path after
                (add quoted text, last)
          | _, _ =>
              let (text, after) := substitute perform body step
              (add quoted text, after)
      | .chosen quoted origin use =>
          match locate perform fuel origin step with
          | (some chosen, after) =>
              if after.isGoing then addChosen perform fuel splitting quoted chosen use fields after
              else (fields, after)
          | (none, after) => (fields, after)
      | .entries _ => (fields, step)
      | .passage writes body =>
          let (path, after) := openPassage perform writes body step
          (add true path, after)
      | .faulty text => (fields, step.drop (String.ofList text ++ ": bad substitution"))
      | .parameter quoted name .plain =>
          -- Without arguments there is no field, not even an empty one.
          if splits && quoted && name == "@" && step.process.arguments.length ≤ 1 then
            (fields, step)
          else
            match step.process.whole? name (splits && (name == "@" || !quoted)) with
            | some value => (add quoted value, step)
            | none =>
                if step.process.options.needsParameters then (fields, step.needParameter name)
                else (add quoted "", step)
      | .parameter quoted name .length =>
          match step.process.whole? name false with
          | some value => (add quoted (toString value.utf8ByteSize), step)
          | none =>
              if step.process.options.needsParameters then (fields, step.needParameter name)
              else (add quoted "0", step)
      | .parameter quoted name (.otherwise kind ifEmpty word) =>
          let value := step.process.whole? name (splits && (name == "@" || !quoted))
          let missing := value.all fun text => ifEmpty && text == ""
          -- What is quoted is a field even if it is empty.
          let start := if quoted then fields.grow true [] else fields
          let there := addPart perform fuel splitting (.parameter quoted name .plain) start step
          let added := addParts perform fuel inner (step.process.withHome word) start step
          match kind, missing with
          | .replace, true => (start, step)
          | .replace, false => added
          | _, false => there
          | .use, true => added
          | .assign, true =>
              let (text, after) := expandText perform fuel word step
              let changed := after.assign name text
              let separated := if quoted then fields.grow true text.toList
                else if splits then fields.split separators text.toList
                else fields.grow false text.toList
              (separated, changed)
          | .complain, true =>
              let (text, after) := expandText perform fuel word step
              let message :=
                if text != "" then text
                else if ifEmpty then "parameter not set or null" else "parameter not set"
              (fields, if after.isGoing then after.fail (name ++ ": " ++ message) else after)
      | .parameter quoted name (.trim atEnd longest pattern) =>
          match step.process.whole? name (splits && (name == "@" || !quoted)) with
          | some value =>
              let (marked, after) := expandMarked perform fuel pattern step
              (add quoted (String.ofList (Marked.trim marked atEnd longest value.toList)), after)
          | none =>
              if step.process.options.needsParameters then (fields, step.needParameter name)
              else (add quoted "", step)
      | .parameter .. => (fields, step.fail "Bad substitution")

-- Finds what a parameter of the extended dialect stands for, unless that is a fault.
def locate (perform : Performer) : Nat → Origin → Step → Option Chosen × Step
  | 0, _, step => (none, step.loseItself)
  | fuel + 1, origin, step =>
      let process := step.process
      match origin with
      | .name name =>
          if name = "@" ∨ name = "*" then
            (some (.row name process.arguments.tail (name == "*")), step)
          else if name = "RANDOM" ∧ (process.value? name).isNone then
            let (value, process) := process.drawn
            (some (.one name none (some value)), { step with process })
          else
            let target := if isName name.toList then some (name, none) else none
            (some (.one name target (process.parameter? name)), step)
      | .entry name key =>
          let (text, after) := expandText perform fuel key step
          let title := name ++ "[" ++ text ++ "]"
          let none? : Option Chosen := some (.one title none none)
          if !after.isGoing then (none, after)
          else
            match after.process.keyFor name text with
            | .ok (key, process) =>
                let value := process.entry? name key
                (some (.one title (some (name, some key)) value), { after with process })
            | .error (.subscript _) =>
                (none?, after.complain (GivingFault.message (.subscript name)))
            | .error fault => (none, after.abandon fault.message)
      | .all name joined => (some (.many name (process.entries name) joined), step)
      | .keys name joined =>
          (some (.row name ((process.entries name).map (·.1)) joined), step)
      | .beginning text joined =>
          let names := process.names.filter fun name =>
            text.isPrefixOf name && (process.value? name).isSome
          (some (.row text names joined), step)
      | .through (.name name) =>
          match process.extras.aims.lookup name with
          | some aim => (some (.one name none (some aim)), step)
          | none => locateThrough perform fuel (.name name) name step
      | .through origin => locateThrough perform fuel origin "" step

-- Finds what the parameter stands for that another one names.
def locateThrough (perform : Performer) : Nat → Origin → String → Step → Option Chosen × Step
  | 0, _, _, step => (none, step.loseItself)
  | fuel + 1, origin, name, step =>
      match locate perform fuel origin step with
      | (some chosen, after) =>
          let text := chosen.text " "
          if text = "" then
            (none, after.drop ((if name = "" then chosen.title else name) ++
              ": invalid indirect expansion"))
          else
            match Origin.ofText? text with
            | some origin => locate perform fuel origin after
            | none => (none, after.drop (text ++ ": invalid variable name"))
      | (none, after) => (none, after)

-- Adds to fields what is made of a parameter of the extended dialect.
def addChosen (perform : Performer) : Nat → Splitting → Bool → Chosen → Use → Fields → Step →
    Fields × Step
  | 0, _, _, _, _, fields, step => (fields, step.loseItself)
  | fuel + 1, splitting, quoted, chosen, use, fields, step =>
      let splits := splitting != .nothing
      let rules := step.process.options.textRules false
      let lacks := chosen.isUnset && step.process.options.needsParameters
      let spread (chosen : Chosen) (step : Step) : Fields × Step :=
        (chosen.spread splitting quoted step.process fields, step)
      if lacks && !(use matches .otherwise ..) then (fields, step.needParameter chosen.title)
      else
        match use with
        | .plain | .wrong => spread chosen step
        | .length =>
            let size := if chosen.isMany then chosen.entries.length
              else (chosen.values.headD "").utf8ByteSize
            spread (.one chosen.title none (some (toString size))) step
        | .otherwise kind ifEmpty word =>
            let inner : Splitting := if splits then .everything else .nothing
            let isMissing := chosen.entries.isEmpty || (ifEmpty && chosen.text " " == "")
            let start := if quoted then fields.grow true [] else fields
            let added := addParts perform fuel inner (step.process.withHome word) start step
            match kind, isMissing with
            | .replace, true =>
                (if chosen.isMany && !chosen.joined then fields else start, step)
            | .replace, false | .use, true => added
            | _, false => spread chosen step
            | .assign, true =>
                let (text, after) := expandText perform fuel word step
                match chosen.target with
                | none =>
                    let shown := if isNumber chosen.title then "$" ++ chosen.title
                      else chosen.title
                    (fields, after.drop (shown ++ ": cannot assign in this way"))
                | some (name, key) =>
                    let given := after.give (.value name key false text)
                    (Chosen.spread splitting quoted given.process
                      (.one chosen.title none (some text)) fields, given)
            | .complain, true =>
                let (text, after) := expandText perform fuel word step
                let message :=
                  if text != "" then text
                  else if ifEmpty then "parameter null or not set" else "parameter not set"
                (fields,
                  if after.isGoing then after.quit (chosen.title ++ ": " ++ message) else after)
        | .trim atEnd longest pattern =>
            let (marked, after) := expandMarked perform fuel pattern step
            let trim (text : String) : String :=
              String.ofList (marked.trimBy rules atEnd longest text.toList)
            spread (chosen.map trim) after
        | .slice start size =>
          if chosen.isUnset then spread chosen step
          else
            let (startText, ready) := expandText perform fuel start step
            let (first, begun) := reckoned startText ready
            let whole := if chosen.title = "@" ∨ chosen.title = "*" then
                { chosen with
                  entries := ("0", step.process.arguments.headD "") :: chosen.entries }
              else chosen
            let (size?, sized) : Option (Int × String) × Step :=
              match size with
              | none => (none, begun)
              | some size =>
                  let (sizeText, after) := expandText perform fuel size begun
                  let (value, last) := reckoned sizeText after
                  (some (value, sizeText), last)
            if !sized.isGoing then (fields, sized)
            else
              match whole.slice first size? with
              | .ok slice => spread slice sized
              | .error message => (fields, sized.drop message)
        | .exchange place pattern replacement =>
            let (marked, ready) := expandMarked perform fuel pattern step
            let (filling, after) := expandMarked perform fuel replacement ready
            let counts := step.process.options.isSwitched "patsub_replacement"
            let fill (found : List Char) : List Char := Chosen.filledIn counts found filling
            spread (chosen.map (Chosen.exchanged rules place marked fill)) after
        | .recase letter isAll pattern =>
            let (marked, after) := expandMarked perform fuel pattern step
            spread (chosen.map (Chosen.recased rules letter isAll marked)) after
        | .shown letter => spread (chosen.shown letter step.process) step

end

-- The values of a collection as they are given. Those of a table stand each for one value.
def expandEntries (perform : Performer) : Nat → Bool → List Word → Step → List GivenEntry × Step
  | 0, _, _, step => ([], step.loseItself)
  | _, _, [], step => ([], step)
  | fuel + 1, isTable, word :: rest, step =>
      let (found, after) : List GivenEntry × Step :=
        match entryKey? word with
        | some (key, appends, value) =>
            let (key, ready) := expandText perform fuel key step
            let (text, after) := expandValue perform fuel value ready
            ([⟨some key, appends, text⟩], after)
        | none =>
            if isTable then
              let (text, after) := expandValue perform fuel word step
              ([⟨none, false, text⟩], after)
            else
              let (texts, after) := expandAll perform fuel [word] step
              (texts.map fun text => ⟨none, false, text⟩, after)
      if !after.isGoing then (found, after)
      else
        let (others, last) := expandEntries perform fuel isTable rest after
        (found ++ others, last)

-- What an assignment gives. The flag tells that the variable is to be a table.
def expandGiven (perform : Performer) (fuel : Nat) (isTable : Bool) (assignment : Assignment)
    (step : Step) : Given × Step :=
  match assignment with
  | .to name none appends [.entries words] =>
      let (entries, after) :=
        expandEntries perform fuel (isTable || step.process.isTable name) words step
      (.entries name appends entries, after)
  | .to name key appends word =>
      let (key, ready) : Option String × Step :=
        match key with
        | some key =>
            let (text, after) := expandText perform fuel key step
            (some text, after)
        | none => (none, step)
      let (text, after) := expandValue perform fuel word ready
      (.value name key appends text, after)

-- The fields of a command. How the arguments are taken depends on its name.
def expandDeclared (perform : Performer) : Nat → Bool → List Word → Step → List Declared × Step
  | 0, _, _, step => ([], step.loseItself)
  | _, _, [], step => ([], step)
  | fuel + 1, isTable, word :: rest, step =>
      let dialect := step.process.options.dialect
      let (found, after) : List Declared × Step :=
        match assignment? dialect word, dialect with
        | some (.to name _ _ value), .plain =>
            let (text, after) := expandValue perform fuel value step
            ([.word (name ++ "=" ++ text)], after)
        | some assignment, .extended =>
            let (given, after) := expandGiven perform fuel isTable assignment step
            ([.given given], after)
        | none, _ =>
            let (texts, after) := expandAll perform fuel [word] step
            (texts.map .word, after)
      if !after.isGoing then (found, after)
      else
        let asksTable := found.any fun item =>
          match item with
          | .word text => "-".isPrefixOf text && text.contains 'A'
          | .given _ => false
        let (others, last) := expandDeclared perform fuel (isTable || asksTable) rest after
        (found ++ others, last)

def expandCommand (perform : Performer) : Nat → List Word → Step → List Declared × Step
  | 0, _, step => ([], step.loseItself)
  | _, [], step => ([], step)
  | fuel + 1, word :: rest, step =>
      let (texts, after) := expandAll perform fuel [word] step
      let found := texts.map Declared.word
      let declaring := step.process.options.dialect.declaringBuiltins
      if !after.isGoing then (found, after)
      else
        let (others, last) : List Declared × Step :=
          if texts.isEmpty ∨ texts = ["command"] ∨
              (texts = ["builtin"] ∧ step.process.isExtended) then
            expandCommand perform fuel rest after
          else if texts.head?.any declaring.contains then
            expandDeclared perform fuel false rest after
          else
            let (texts, last) := expandAll perform fuel rest after
            (texts.map .word, last)
        (found ++ others, last)

-- Shows what a variable is given, as a script would write it.
def Given.shown : Given → String
  | value name key appends text =>
      name ++ ((key.map fun key => "[" ++ key ++ "]").getD "") ++ (if appends then "+=" else "=") ++
        tracedWord text
  | entries name appends items =>
      let texts := items.map fun entry =>
        ((entry.key.map fun key => "[" ++ key ++ "]=").getD "") ++ tracedWord entry.value
      name ++ (if appends then "+=(" else "=(") ++ " ".intercalate texts ++ ")"

-- The argument that a word is for a command that knows of plain words only.
def Declared.argument : Declared → String
  | word text => text
  | given (.value name key appends value) =>
      name ++ ((key.map fun key => "[" ++ key ++ "]").getD "") ++ (if appends then "+=" else "=") ++
        value
  | given (.entries name ..) => name

-- Where a redirection leads. In the extended dialect it has to be one place.
def expandTarget (perform : Performer) (fuel : Nat) (kind : RedirectKind) (target : Word)
    (step : Step) : Option String × Step :=
  let keepsTarget := kind = .document ∨ kind = .line ∨ !step.process.isExtended
  if keepsTarget then
    let (text, after) := expandText perform fuel target step
    (some text, after)
  else
    match expandAll perform fuel [target] step with
    | ([text], after) => (some text, after)
    | (_, after) => (none, after)

-- Applies redirections from left to right. One that fails gives the command its status.
def redirectAll (perform : Performer) (fuel : Nat) : List Redirect → Step → Step × Bool
  | [], step => (step, true)
  | .to channel kind target :: rest, step =>
      let (text?, ready) := expandTarget perform fuel kind target step
      -- A fault in a document counts as a redirection that fails.
      if kind = .document ∧ ready.flow = .failed then (ready.recover, false)
      else if !ready.isGoing then (ready, false)
      else
        match text? with
        | none => (ready.refuse 1 (Word.spelling target ++ ": ambiguous redirect"), false)
        | some text =>
            match redirectTo channel kind text ready with
            | .ok redirected => redirectAll perform fuel rest redirected
            | .error (.refused message) =>
                (ready.refuse (if ready.process.isExtended then 1 else 2) message, false)
            | .error .noChannel =>
                ((ready.onLine ready.process.readLine).fail "Syntax error: Bad fd number", false)

-- Shows what is done before it is done, if the script wants it so. The first character of the mark
-- in front tells how deep the script lies in others.
def traced (perform : Performer) (fuel : Nat) (channel : Option Nat) (text : String)
    (step : Step) : Step :=
  if !step.process.options.showsCommands || !step.isGoing then step
  else
    let given := step.process.parameter "PS4"
    let mark :=
      if given.contains '$' || given.contains '\x60' then
        let cursor := { Cursor.ofText given with dialect := .extended }
        match (Reading.parts (Reading.fuelFor cursor.rest) .document).run cursor with
        | .ok (word, _) =>
            let options := step.process.options.turn false "xtrace"
            (expandText perform fuel word { step with process := { step.process with options } }).1
        | .error _ => given
      else given
    let front := List.replicate step.process.nesting ((mark.toList.head?).getD '+')
    let line := String.ofList (if mark = "" then [] else front) ++ mark ++ text ++ "\n"
    (step.writeTo channel (Utf8.encode line)).1

def tracedOnErrors (perform : Performer) (fuel : Nat) (text : String) (step : Step) : Step :=
  traced perform fuel (step.process.channel? 2) text step

-- Gives variables what assignments say, from left to right, until one of them fails. The flag tells
-- that programs get to see them.
def giveAll (perform : Performer) (fuel : Nat) (exposed : Bool) : List Assignment → Step → Step
  | [], step => step
  | assignment :: rest, step =>
      if !step.isGoing then step
      else
        let (given, ready) := expandGiven perform fuel false assignment step
        let shown := match assignment with
          | .to _ _ _ [.entries _] => assignment.spelling
          | _ => given.shown
        let after := (tracedOnErrors perform fuel shown ready).give given
        let process := if exposed then after.process.expose given.name else after.process
        giveAll perform fuel exposed rest { after with process }

def Assignment.name : Assignment → String
  | .to name .. => name

-- The value of an expression of a command of its own, unless it has none. What is empty holds.
def tryReckoning (perform : Performer) (fuel : Nat) (expression : Word) (step : Step) :
    Option Int × Step :=
  let (text, ready) := expandText perform fuel expression step
  if !ready.isGoing then (none, ready)
  else if expression.isEmpty then (some 1, ready)
  else
    let shown := tracedOnErrors perform fuel ("(( " ++ text ++ " ))") ready
    match shown.process.reckon text with
    | .ok (value, process) => (some value, { shown with process })
    | .error (.unset name) => (none, shown.quit (ReckoningFault.message (.unset name)))
    | .error (.constant name) =>
        (none, shown.refuse 1 (ReckoningFault.message (.constant name)))
    | .error fault => (none, shown.refuse 1 ("((: " ++ fault.message))

end MakeCheck.Shell
