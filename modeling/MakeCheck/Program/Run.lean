import MakeCheck.Make.Run
import MakeCheck.Program.Blocks
import MakeCheck.Program.Column
import MakeCheck.Program.Comparison
import MakeCheck.Program.Digest
import MakeCheck.Program.Dump
import MakeCheck.Program.Edit.Run
import MakeCheck.Program.Encoding
import MakeCheck.Program.Expression
import MakeCheck.Program.Finding
import MakeCheck.Program.Identity
import MakeCheck.Program.Inspection
import MakeCheck.Program.Numbering
import MakeCheck.Program.Numbers
import MakeCheck.Program.Plan
import MakeCheck.Program.Rearranging
import MakeCheck.Program.Scan.Run
import MakeCheck.Program.Search
import MakeCheck.Program.Sorting
import MakeCheck.Program.Starting
import MakeCheck.Program.Transfer
import MakeCheck.Program.Translation

namespace MakeCheck.Program

def run (utility : Utility) (arguments : List String) (around : Surroundings) : Outcome :=
  match utility with
  | .echo => echo around arguments
  | .printf => printf around arguments
  | .cat => cat around arguments
  | .list => list around arguments
  | .printDirectory => printDirectory around arguments
  | .sleep => sleep around arguments
  | .repeatLine => repeatLine around arguments
  | .succeed => around.outcome 0 []
  | .fail => around.outcome 1 []
  | .test => test around arguments
  | .touch => touch around arguments
  | .remove => remove around arguments
  | .makeDirectory => makeDirectory around arguments
  | .sequence => sequence around arguments
  | .head => head around arguments
  | .tail => tail around arguments
  | .count => count around arguments
  | .sort => sort around arguments
  | .unique => unique around arguments
  | .translate => translate around arguments
  | .cut => cut around arguments
  | .copy => copy around arguments
  | .move => move around arguments
  | .tee => tee around arguments
  | .changeMode => changeMode around arguments
  | .removeDirectory => removeDirectory around arguments
  | .baseName => baseName around arguments
  | .directoryName => directoryName around arguments
  | .printEnvironment => printEnvironment around arguments
  | .search => search around arguments
  | .edit => edit around arguments
  | .expression => expression around arguments
  | .link => link around arguments
  | .readLink => readLink around arguments
  | .realPath => realPath around arguments
  | .makeQueue => makeQueue around arguments
  | .install => install around arguments
  | .makeTemporary => makeTemporary around arguments
  | .date => date around arguments
  | .stat => stat around arguments
  | .join => join around arguments
  | .common => common around arguments
  | .paste => paste around arguments
  | .expand => expand around arguments
  | .unexpand => unexpand around arguments
  | .fold => fold around arguments
  | .splitFile => splitFile around arguments
  | .shuffle => shuffle around arguments
  | .reverseLines => reverseLines around arguments
  | .reverseChars => reverseChars around arguments
  | .numberLines => showNumbered around arguments
  | .compare => compareFiles around arguments
  | .difference => difference around arguments
  | .dump => dump around arguments
  | .truncate => truncate around arguments
  | .linkPair => linkPair around arguments
  | .unlink => unlink around arguments
  | .which => which around arguments
  | .identity => identity around arguments
  | .userName => sayAlone "root\n" around arguments
  | .groups => groups around arguments
  | .loginName => loginName around arguments
  | .terminal => terminal around arguments
  | .machine => sayAlone "x86_64\n" around arguments
  | .systemName => systemName around arguments
  | .synchronize => around.outcome 0 []
  | .digest name =>
      match digestKinds.lookup name with
      | some kind => tellDigests kind around arguments
      | none => around.outcome 1 []
  | .checkSums => checkSums around arguments
  | .sumBlocks => sumBlocks around arguments
  | .sixBits => encode .sixBits around arguments
  | .fiveBits => encode .fiveBits around arguments
  | .copyBlocks => copyBlocks around arguments
  | .factor => factor around arguments
  | .rank => rank around arguments
  | .extendedSearch => search { around with name := "grep" } ("-E" :: arguments)
  | .fixedSearch => search { around with name := "grep" } ("-F" :: arguments)
  | _ => around.outcome 0 []

def plan (utility : Utility) (arguments : List String) (around : Surroundings) : Plan :=
  match utility with
  | .environment => withEnvironment around arguments
  | .find => find around arguments
  | .gather => gather around arguments
  | .limitTime => limitTime around arguments
  | .lowerPriority => lowerPriority around arguments
  | .ignoreHangup => ignoreHangup around arguments
  | .make => Make.make around arguments
  | .awk => scan around arguments
  | .buffer => passOn bufferOptions around arguments
  | .session => passOn sessionOptions around arguments
  | utility => .finish (run utility arguments around)

end MakeCheck.Program
