import MakeCheck.Program.Sorting

namespace MakeCheck.Program

open Text

-- The lines of a source, which end in a line break or in a nought.
def linesBy (stop : UInt8) (bytes : List UInt8) : List (List UInt8) :=
  let pieces := bytes.splitOn stop
  if pieces.getLast? = some [] then pieces.dropLast else pieces

-- Whether disorder among the lines of a source is looked for: never, always, or as soon as a line
-- was met that has no partner.
inductive OrderCheck where
  | never
  | always
  | whenUnpaired
deriving DecidableEq

def OrderCheck.of (given : Given) (wants refuses : Char) : OrderCheck :=
  if given.has refuses then .never else if given.has wants then .always else .whenUnpaired

-- A line of a table: its number, its text, its fields and the one that it is found by.
structure Row where
  number : Nat
  text : List UInt8
  fields : List (List UInt8)
  key : List UInt8

-- A column of a joined table: the common field, or a field of one of the two sources.
inductive Column where
  | common
  | field (isFirst : Bool) (index : Nat)

-- What is asked of a join. The two sides come one after the other in pairs.
structure JoinRule where
  names : String × String
  keys : Nat × Nat
  showsPairs : Bool
  showsLone : Bool × Bool
  filler : List UInt8
  separator : UInt8
  columns : Option (List Column)
  stop : UInt8
  order : List UInt8 → List UInt8 → Ordering
  check : OrderCheck
  complain : String → Channel × List UInt8

-- How far a join has come: whether a line without a partner was met, which sides are known to be
-- in disorder, what was shown, the latest first, and whether it was broken off.
structure JoinState where
  seen : Bool
  disorder : Bool × Bool
  shown : List (Channel × List UInt8)
  isOver : Bool

namespace JoinRule

-- The line that two rows make, where one may be missing.
def line (rule : JoinRule) (a b : Option Row) : List UInt8 :=
  let fieldsOf (row : Option Row) : List (List UInt8) := (row.map (·.fields)).getD []
  let filled (field : Option (List UInt8)) : List UInt8 :=
    match field with
    | none | some [] => rule.filler
    | some field => field
  let common : List UInt8 :=
    match a, b with
    | some row, _ => filled row.fields[rule.keys.1]?
    | none, some row => filled row.fields[rule.keys.2]?
    | none, none => rule.filler
  let all :=
    match rule.columns with
    | some columns =>
        columns.map fun column =>
          match column with
          | .common => common
          | .field true index => filled (fieldsOf a)[index]?
          | .field false index => filled (fieldsOf b)[index]?
    | none =>
        common :: ((fieldsOf a).eraseIdx rule.keys.1).map (fun field => filled (some field)) ++
          ((fieldsOf b).eraseIdx rule.keys.2).map fun field => filled (some field)
  List.intercalate [rule.separator] all ++ [rule.stop]

def display (rule : JoinRule) (a b : Option Row) (state : JoinState) : JoinState :=
  { state with shown := (.output, rule.line a b) :: state.shown }

-- Looks whether the next row of a side comes before the last one.
def look (rule : JoinRule) (isFirst : Bool) (last next : Option Row) (state : JoinState) :
    JoinState :=
  let isAsked := rule.check == .always || (rule.check == .whenUnpaired && state.seen)
  let isTold := if isFirst then state.disorder.1 else state.disorder.2
  match last, next with
  | some last, some next =>
      if isAsked && !isTold && rule.order last.key next.key == .gt then
        let name := if isFirst then rule.names.1 else rule.names.2
        let message := name ++ ":" ++ toString next.number ++ ": is not sorted: " ++
          Utf8.decodeLossy next.text
        { state with
          disorder := if isFirst then (true, state.disorder.2) else (state.disorder.1, true)
          shown := rule.complain message :: state.shown
          isOver := rule.check == .always }
      else state
  | _, _ => state

-- What is left of one side when the other one is at its end.
def rest (rule : JoinRule) (isFirst : Bool) : List Row → JoinState → JoinState
  | [], state => state
  | row :: rows, state =>
      if state.isOver then state
      else
        let shows := if isFirst then rule.showsLone.1 else rule.showsLone.2
        let shown := if !shows then state
          else if isFirst then rule.display (some row) none state
          else rule.display none (some row) state
        rest rule isFirst rows (rule.look isFirst (some row) rows.head? shown)

-- Goes through both sides at the same time. The fuel is the number of rows.
def merge (rule : JoinRule) : Nat → List Row → List Row → JoinState → JoinState
  | 0, _, _, state => state
  | _, [], others, state => rule.rest false others state
  | _, rows, [], state => rule.rest true rows state
  | fuel + 1, a :: rows, b :: others, state =>
      if state.isOver then state
      else
        match rule.order a.key b.key with
        | .lt =>
            let shown := if rule.showsLone.1 then rule.display (some a) none state else state
            let looked := rule.look true (some a) rows.head? shown
            merge rule fuel rows (b :: others) { looked with seen := true }
        | .gt =>
            let shown := if rule.showsLone.2 then rule.display none (some b) state else state
            let looked := rule.look false (some b) others.head? shown
            merge rule fuel (a :: rows) others { looked with seen := true }
        | .eq =>
            let isSame (row : Row) : Bool := rule.order row.key a.key == .eq
            let (group, rows) := (a :: rows).span isSame
            let (partners, others) := (b :: others).span isSame
            let looked := rule.look true group.getLast? rows.head? state
            let looked := rule.look false partners.getLast? others.head? looked
            let pairs := group.flatMap fun row => partners.map fun partner => (row, partner)
            let showPair state (pair : Row × Row) := rule.display (some pair.1) (some pair.2) state
            let shown :=
              if rule.showsPairs && !looked.isOver then pairs.foldl showPair looked else looked
            merge rule fuel rows others shown

end JoinRule

-- The fields of a line: what stands between blanks, or between marks. A blank at the end opens an
-- empty field.
def fieldsOfLine (mark : Option UInt8) (line : List UInt8) : List (List UInt8) :=
  match mark with
  | some mark => line.splitOn mark
  | none =>
      let body := line.dropWhile isBlankByte
      let pieces := (body.splitOnP isBlankByte).filter (· != [])
      if body.getLast?.any isBlankByte then pieces ++ [[]] else pieces

def lowered (bytes : List UInt8) : List UInt8 :=
  bytes.map fun byte => if 65 ≤ byte ∧ byte ≤ 90 then byte + 32 else byte

def column? (text : String) : Except String Column :=
  match text.toList with
  | ['0'] => .ok .common
  | side :: '.' :: digits =>
      if side != '1' && side != '2' then
        .error ("invalid file number in field spec: " ++ quotedName text)
      else if digits.isEmpty || !digits.all Char.isDigit || decimalValue digits = 0 then
        .error ("invalid field number: " ++ quotedName (String.ofList digits))
      else .ok (.field (side == '1') (decimalValue digits - 1))
  | _ => .error ("invalid field specifier: " ++ quotedName text)

def joinOptions : List OptionKind :=
  [valued 'a' "", valued 'e' "", plain 'i' "ignore-case", valued 'j' "", valued 'o' "",
    valued 't' "", valued 'v' "", valued '1' "", valued '2' "", plain 'C' "check-order",
    plain 'N' "nocheck-order", plain 'H' "header", plain 'z' "zero-terminated"]

def fieldNumber? (text : String) : Except String Nat :=
  let digits := text.toList
  if digits.isEmpty || !digits.all Char.isDigit || decimalValue digits = 0 then
    .error ("invalid field number: " ++ quotedName text)
  else .ok (decimalValue digits - 1)

def sideNumber? (text : String) : Except String Bool :=
  if text = "1" then .ok true
  else if text = "2" then .ok false
  else .error ("invalid field number: " ++ quotedName text)

-- What stands between two fields. Without a text the whole line is one field.
def joinMark (given : Given) : Except String (Option UInt8) :=
  match given.value? 't' with
  | none => .ok none
  | some "" => .ok (some 10)
  | some "\\0" => .ok (some 0)
  | some text =>
      match Utf8.encode text with
      | [byte] => .ok (some byte)
      | _ => .error ("multi-character tab " ++ quotedName text)

-- The rule that options ask for, but for the names of the sources.
def joinRule (around : Surroundings) (given : Given) : Except String (JoinRule × Option UInt8) := do
  let mark ← joinMark given
  let both ← (given.value? 'j').mapM fieldNumber?
  let first ← (given.value? '1').mapM fieldNumber?
  let second ← (given.value? '2').mapM fieldNumber?
  let lone ← (given.values 'a' ++ given.values 'v').mapM sideNumber?
  let words := (given.values 'o').flatMap fun text =>
    (text.toList.splitOnP fun c => c == ',' || c == ' ').map String.ofList
  let isFree := words.isEmpty || words == ["auto"]
  let listed ← (if isFree then [] else words).mapM column?
  let folds := given.has 'i'
  return ({
    names := ("-", "-")
    keys := ((first.or both).getD 0, (second.or both).getD 0)
    showsPairs := (given.values 'v').isEmpty
    showsLone := (lone.contains true, lone.contains false)
    filler := Utf8.encode ((given.value? 'e').getD "")
    separator := mark.getD 32
    columns := if isFree then none else some listed
    stop := if given.has 'z' then 0 else 10
    order := fun a b => if folds then orderOfBytes (lowered a) (lowered b) else orderOfBytes a b
    check := .of given 'C' 'N'
    complain := around.complaint }, mark)

-- The columns that two rows give: the common one, and the others of either side.
def allColumns (keys : Nat × Nat) (a b : Option Row) : List Column :=
  let others (isFirst : Bool) (key : Nat) (row : Option Row) : List Column :=
    let indices := List.range ((row.map fun row => row.fields.length).getD 0)
    (indices.filter (· != key)).map (Column.field isFirst ·)
  .common :: others true keys.1 a ++ others false keys.2 b

-- Says what two names are missing, or that there are too many of them.
def pairFault? : List String → Option String
  | [] => some "missing operand"
  | [name] => some ("missing operand after " ++ quotedName name)
  | [_, _] => none
  | _ :: _ :: extra :: _ => some ("extra operand " ++ quotedName extra)

-- Joins the lines of two sources that have a field in common.
def join (around : Surroundings) (arguments : List String) : Outcome :=
  withArguments around joinOptions arguments fun given =>
    match pairFault? given.operands, joinRule around given with
    | _, .error message => around.outcome 1 [around.complaint message]
    | some message, _ => around.misused 1 [message]
    | none, .ok (rule, mark) =>
        let first := given.operands.headD "-"
        let second := (given.operands.drop 1).headD "-"
        let rows (key : Nat) (bytes : List UInt8) : List Row :=
          (linesBy rule.stop bytes).zipIdx.map fun (text, i) =>
            let fields := fieldsOfLine mark text
            ⟨i + 1, text, fields, fields[key]?.getD []⟩
        match around.source first, around.source second with
        | .error fault, _ => around.outcome 1 [around.complaint (readReport first fault)]
        | _, .error fault => around.outcome 1 [around.complaint (readReport second fault)]
        | .ok a, .ok b =>
            let rule := { rule with names := (first, second) }
            let rows1 := rows rule.keys.1 a
            let rows2 := rows rule.keys.2 b
            let rule := if given.values 'o' = ["auto"] then
                { rule with columns := some (allColumns rule.keys rows1.head? rows2.head?) }
              else rule
            let start : JoinState := ⟨false, (false, false), [], false⟩
            let isHeaded := given.has 'H' && !(rows1.isEmpty && rows2.isEmpty)
            let state := if isHeaded then rule.display rows1.head? rows2.head? start else start
            let rows1 := if isHeaded then rows1.drop 1 else rows1
            let rows2 := if isHeaded then rows2.drop 1 else rows2
            let last := rule.merge (rows1.length + rows2.length + 1) rows1 rows2 state
            let isWrong := last.disorder.1 || last.disorder.2
            let note := if isWrong && !last.isOver then
                [around.complaint "input is not in sorted order"]
              else []
            { around.outcome (if isWrong then 1 else 0) (last.shown.reverse ++ note) with
              intake := Surroundings.intakeOf given.operands }

-- What is shown of two sources of lines in order: the lines of the first one only, those of the
-- second one only, and those of both, each in a column of its own.
structure Comparing where
  shows : Bool × Bool × Bool
  separator : List UInt8
  stop : UInt8
  check : OrderCheck
  complain : String → Channel × List UInt8

structure ComparingState where
  seen : Bool
  disorder : Bool × Bool
  shown : List (Channel × List UInt8)
  totals : Nat × Nat × Nat
  isOver : Bool

namespace Comparing

def look (rule : Comparing) (isFirst : Bool) (last next : Option (List UInt8))
    (state : ComparingState) : ComparingState :=
  let isAsked := rule.check == .always || (rule.check == .whenUnpaired && state.seen)
  let isTold := if isFirst then state.disorder.1 else state.disorder.2
  match last, next with
  | some last, some next =>
      if isAsked && !isTold && !state.isOver && orderOfBytes last next == .gt then
        let side := if isFirst then "1" else "2"
        { state with
          disorder := if isFirst then (true, state.disorder.2) else (state.disorder.1, true)
          shown := rule.complain ("file " ++ side ++ " is not in sorted order") :: state.shown
          isOver := rule.check == .always }
      else state
  | _, _ => state

-- Steps on in one source. At its end the last two lines are looked at once more.
def step (rule : Comparing) (isFirst : Bool) (before : Option (List UInt8)) (last : List UInt8)
    (rest : List (List UInt8)) (state : ComparingState) : ComparingState :=
  match rest with
  | next :: _ => rule.look isFirst (some last) (some next) state
  | [] => rule.look isFirst before (some last) state

-- Goes through both sources. What comes before each of them is the line above. The fuel is the
-- number of lines.
def run (rule : Comparing) : Nat → Option (List UInt8) × List (List UInt8) →
    Option (List UInt8) × List (List UInt8) → ComparingState → ComparingState
  | 0, _, _, state => state
  | fuel + 1, (above1, lines1), (above2, lines2), state =>
      let order : Option Ordering :=
        match lines1, lines2 with
        | [], [] => none
        | [], _ => some .gt
        | _, [] => some .lt
        | a :: _, b :: _ => some (orderOfBytes a b)
      let pad (isShown : Bool) : List UInt8 := if isShown then rule.separator else []
      let put (isShown : Bool) (gap line : List UInt8) (state : ComparingState) : ComparingState :=
        if isShown then
          { state with shown := (.output, gap ++ line ++ [rule.stop]) :: state.shown }
        else state
      let (shows1, shows2, shows3) := rule.shows
      let (total1, total2, total3) := state.totals
      if state.isOver then state
      else
        match order with
        | none => state
        | some .eq =>
            let line := lines1.headD []
            let state := put shows3 (pad shows1 ++ pad shows2) line
              { state with totals := (total1, total2, total3 + 1) }
            let state := rule.step true above1 line lines1.tail state
            let state := rule.step false above2 (lines2.headD []) lines2.tail state
            run rule fuel (lines1.head?, lines1.tail) (lines2.head?, lines2.tail) state
        | some .lt =>
            let line := lines1.headD []
            let state := put shows1 [] line
              { state with seen := true, totals := (total1 + 1, total2, total3) }
            let state := rule.step true above1 line lines1.tail state
            run rule fuel (lines1.head?, lines1.tail) (above2, lines2) state
        | some .gt =>
            let line := lines2.headD []
            let state := put shows2 (pad shows1) line
              { state with seen := true, totals := (total1, total2 + 1, total3) }
            let state := rule.step false above2 line lines2.tail state
            run rule fuel (above1, lines1) (lines2.head?, lines2.tail) state

end Comparing

def common (around : Surroundings) (arguments : List String) : Outcome :=
  let known := [plain '1' "", plain '2' "", plain '3' "", plain 'C' "check-order",
    plain 'N' "nocheck-order", valued 'D' "output-delimiter", plain 'T' "total",
    plain 'z' "zero-terminated"]
  withArguments around known arguments fun given =>
    match pairFault? given.operands with
    | some message => around.misused 1 [message]
    | none =>
        let first := given.operands.headD "-"
        let second := (given.operands.drop 1).headD "-"
        match around.source first, around.source second with
        | .error fault, _ => around.outcome 1 [around.complaint (readReport first fault)]
        | _, .error fault => around.outcome 1 [around.complaint (readReport second fault)]
        | .ok a, .ok b =>
            let stop : UInt8 := if given.has 'z' then 0 else 10
            let rule : Comparing :=
              { shows := (!given.has '1', !given.has '2', !given.has '3')
                separator := Utf8.encode ((given.value? 'D').getD "\t")
                stop
                check := .of given 'C' 'N'
                complain := around.complaint }
            let lines1 := linesBy stop a
            let lines2 := linesBy stop b
            let last := rule.run (lines1.length + lines2.length + 1) (none, lines1) (none, lines2)
              ⟨false, (false, false), [], (0, 0, 0), false⟩
            let (total1, total2, total3) := last.totals
            let gap := Utf8.decodeLossy rule.separator
            let totals := if given.has 'T' && !last.isOver then
                [said (gap.intercalate
                  [toString total1, toString total2, toString total3, "total"] ++ "\n")]
              else []
            let isWrong := last.disorder.1 || last.disorder.2
            let note := if isWrong && !last.isOver then
                [around.complaint "input is not in sorted order"]
              else []
            { around.outcome (if isWrong then 1 else 0) (last.shown.reverse ++ totals ++ note) with
              intake := Surroundings.intakeOf given.operands }

-- The marks that stand between columns. One that is spelled as a nought is empty.
def pasteMarks : List Char → List (List UInt8)
  | [] => []
  | '\\' :: c :: rest =>
      let mark : List UInt8 :=
        if c = '0' then []
        else if c = 'n' then [10]
        else if c = 't' then [9]
        else if c = 'b' then [8]
        else if c = 'f' then [12]
        else if c = 'r' then [13]
        else if c = 'v' then [11]
        else Utf8.encode c.toString
      mark :: pasteMarks rest
  | c :: rest => Utf8.encode c.toString :: pasteMarks rest

def interleaved (marks : List (List UInt8)) (pieces : List (List UInt8)) : List UInt8 :=
  (pieces.zipIdx.map fun (piece, i) =>
    if i = 0 then piece else (marks[(i - 1) % marks.length]?).getD [] ++ piece).flatten

-- The rows of columns side by side, as long as one of them goes on.
def rowsOf (columns : List (List (List UInt8))) : List (List (List UInt8)) :=
  let height := (columns.map List.length).foldl max 0
  (List.range height).map fun i => columns.map fun column => (column[i]?).getD []

-- Deals lines out to so many columns, one after the other.
def dealt (lines : List (List UInt8)) (columns index : Nat) : List (List UInt8) :=
  (lines.zipIdx.filter fun entry => entry.2 % columns == index).map (·.1)

def paste (around : Surroundings) (arguments : List String) : Outcome :=
  let known := [valued 'd' "delimiters", plain 's' "serial", plain 'z' "zero-terminated"]
  withArguments around known arguments fun given =>
    let names := if given.operands.isEmpty then ["-"] else given.operands
    let stop : UInt8 := if given.has 'z' then 0 else 10
    let text := (given.value? 'd').getD "\t"
    let marks := pasteMarks text.toList
    let marks := if marks.isEmpty then [[]] else marks
    let found := names.map fun name => (name, around.source name)
    let intake := Surroundings.intakeOf names
    if given.has 's' then
      let written := found.zipIdx.map fun ((name, result), i) =>
        match result with
        | .ok bytes =>
            -- What the input has given once it does not give again.
            let isUsed := name == "-" && (names.take i).contains "-"
            let lines := if isUsed then [] else linesBy stop bytes
            (Channel.output, interleaved marks lines ++ [stop])
        | .error fault => around.complaint (readReport name fault)
      let isFine := written.all fun entry => entry.1 == .output
      { around.outcome (if isFine then 0 else 1) written with intake }
    else
      let missing := found.find? fun entry =>
        match entry.2 with
        | .error .isADirectory | .ok _ => false
        | .error _ => true
      match missing with
      | some (name, .error fault) =>
          around.outcome 1 [around.complaint (readReport name fault)]
      | _ =>
          let complaints := found.filterMap fun (name, result) =>
            match result with
            | .error fault => some (around.complaint (readReport name fault))
            | .ok _ => none
          let hyphens := names.count "-"
          let columns := found.zipIdx.map fun ((name, result), i) =>
            let lines := linesBy stop (result.toOption.getD [])
            if name = "-" then dealt lines hyphens ((names.take i).count "-") else lines
          let rows := (rowsOf columns).map fun row => interleaved marks row ++ [stop]
          { around.outcome (if complaints.isEmpty then 0 else 1)
              (complaints ++ [(.output, rows.flatten)]) with intake }

end MakeCheck.Program
