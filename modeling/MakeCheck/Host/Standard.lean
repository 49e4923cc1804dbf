import MakeCheck.Host.Basic
import MakeCheck.Shell.Evaluation

namespace MakeCheck

open Text

namespace FileStore

-- The programs that every host has.
def standardPrograms : List (String × Utility) :=
  [("sh", .shell), ("dash", .shell), ("bash", .bash), ("echo", .echo), ("printf", .printf),
    ("cat", .cat), ("ls", .list), ("pwd", .printDirectory), ("sleep", .sleep), ("yes", .repeatLine),
    ("true", .succeed), ("false", .fail), ("test", .test), ("[", .test), ("touch", .touch),
    ("rm", .remove), ("mkdir", .makeDirectory), ("seq", .sequence), ("head", .head),
    ("tail", .tail), ("wc", .count), ("sort", .sort), ("uniq", .unique), ("tr", .translate),
    ("cut", .cut), ("cp", .copy), ("mv", .move), ("tee", .tee), ("chmod", .changeMode),
    ("rmdir", .removeDirectory), ("basename", .baseName), ("dirname", .directoryName),
    ("env", .environment), ("printenv", .printEnvironment), ("grep", .search),
    ("sed", .edit), ("expr", .expression), ("ln", .link), ("readlink", .readLink),
    ("realpath", .realPath), ("mkfifo", .makeQueue), ("install", .install),
    ("mktemp", .makeTemporary), ("xargs", .gather), ("timeout", .limitTime),
    ("nice", .lowerPriority), ("nohup", .ignoreHangup), ("date", .date), ("stat", .stat),
    ("join", .join), ("comm", .common), ("paste", .paste), ("expand", .expand),
    ("unexpand", .unexpand), ("fold", .fold), ("split", .splitFile), ("shuf", .shuffle),
    ("tac", .reverseLines), ("rev", .reverseChars), ("nl", .numberLines),
    ("cmp", .compare), ("diff", .difference), ("od", .dump), ("find", .find),
    ("make", .make), ("awk", .awk), ("mawk", .awk), ("truncate", .truncate),
    ("link", .linkPair), ("unlink", .unlink), ("which", .which), ("id", .identity),
    ("whoami", .userName), ("groups", .groups), ("logname", .loginName), ("tty", .terminal),
    ("arch", .machine), ("uname", .systemName), ("sync", .synchronize),
    ("md5sum", .digest "md5"), ("sha1sum", .digest "sha1"), ("sha224sum", .digest "sha224"),
    ("sha256sum", .digest "sha256"), ("sha384sum", .digest "sha384"),
    ("sha512sum", .digest "sha512"), ("cksum", .checkSums), ("sum", .sumBlocks),
    ("base64", .sixBits), ("base32", .fiveBits), ("dd", .copyBlocks), ("factor", .factor),
    ("tsort", .rank), ("egrep", .extendedSearch), ("fgrep", .fixedSearch),
    ("stdbuf", .buffer), ("setsid", .session)]

def standardDirectories : List Location :=
  [[], ["usr"], ["usr", "bin"], ["usr", "sbin"], ["usr", "lib"], ["usr", "local"],
    ["usr", "local", "bin"], ["usr", "local", "sbin"], ["usr", "share"], ["dev"], ["etc"],
    ["home"], ["mnt"], ["opt"], ["proc"], ["root"], ["run"], ["srv"], ["sys"], ["tmp"], ["var"],
    ["var", "tmp"]]

def standardLinks : List (String × String) :=
  [("bin", "usr/bin"), ("sbin", "usr/sbin"), ("lib", "usr/lib")]

def standardDevices : List (String × Device) :=
  [("null", .null), ("zero", .zero), ("full", .full), ("random", .noise), ("urandom", .noise)]

-- Lines on the users that every host has.
def userLines : List String :=
  ["root:x:0:0:root:/root:/bin/bash", "daemon:x:1:1:daemon:/usr/sbin:/usr/sbin/nologin",
    "bin:x:2:2:bin:/bin:/usr/sbin/nologin", "sys:x:3:3:sys:/dev:/usr/sbin/nologin",
    "sync:x:4:65534:sync:/bin:/bin/sync", "games:x:5:60:games:/usr/games:/usr/sbin/nologin",
    "man:x:6:12:man:/var/cache/man:/usr/sbin/nologin",
    "lp:x:7:7:lp:/var/spool/lpd:/usr/sbin/nologin",
    "mail:x:8:8:mail:/var/mail:/usr/sbin/nologin",
    "nobody:x:65534:65534:nobody:/nonexistent:/usr/sbin/nologin"]

def groupLines : List String :=
  ["root:x:0:", "daemon:x:1:", "bin:x:2:", "sys:x:3:", "nogroup:x:65534:"]

def standardTexts : List (String × List String) :=
  [("passwd", userLines), ("group", groupLines), ("hosts", ["127.0.0.1\tlocalhost"]),
    ("shells", ["/bin/sh", "/usr/bin/sh", "/bin/bash", "/usr/bin/bash"])]

-- The files of a host on which nobody has worked yet.
def standard (now : Time) : FileStore :=
  let directories : List (Location × Node) := standardDirectories.map fun location =>
    (location, .ofRoot .directory (if location.getLast? = some "tmp" then 0o1777 else 0o755) now)
  let programs : List (Location × Node) := standardPrograms.map fun (name, utility) =>
    (["usr", "bin", name], .ofRoot (.program utility) 0o755 now)
  let links : List (Location × Node) := standardLinks.map fun (name, target) =>
    ([name], .ofRoot (.link ⟨target⟩) 0o777 now)
  let devices : List (Location × Node) := standardDevices.map fun (name, device) =>
    (["dev", name], .ofRoot (.device device) 0o666 now)
  let texts : List (Location × Node) := standardTexts.map fun (name, lines) =>
    let text := String.join (lines.map (· ++ "\n"))
    (["etc", name], .ofRoot (.file (Utf8.encode text)) 0o644 now)
  .ofNodes (directories ++ links ++ devices ++ programs ++ texts)

end FileStore

namespace Launch

-- A NUL is found before anything is started.
def hasNul (launch : Launch) : Bool :=
  (launch.arguments ++ (launch.workplace.map (·.text)).toList).any fun text =>
    text.toList.contains '\x00'

-- The directory that a program starts in.
def startDirectory (launch : Launch) : Except Fault Location :=
  match launch.workplace with
  | none => .ok launch.directory
  | some path => do
      let (location, node) ← launch.files.find launch.directory path
      if node.content == .directory then .ok location else .error .notADirectory

-- The number of the process that runs the checks.
def ownNumber : Nat := 4710

-- A new process, whose two channels write to one pipe. There is nothing for it to read.
def newProcess (launch : Launch) (directory : Location) : Shell.Process :=
  { time := 0
    deadline := launch.limit.map Duration.toNanos
    number := ownNumber
    job := 0
    directory
    place := Program.directoryText directory
    bindings := launch.environment.bindings.map fun binding =>
      (binding.1, Utf8.decodeLossy binding.2)
    exported := launch.environment.bindings.map (·.1)
    constant := []
    functions := []
    aliases := []
    locals := []
    arguments := []
    line := 0
    readLine := 0
    running := none
    status := 0
    substituted := none
    loops := 0
    nesting := 0
    options := .standard
    mask := standardMask
    traps := []
    caught := []
    optionIndex := 1
    optionOffset := none
    channels := [(0, 0), (1, 1), (2, 1)]
    jobs := []
    extras := .none }

end Launch

-- A system with the programs of the store and no others. The directory is entered before the program
-- is looked for.
def System.standard (launch : Launch) : Except Fault Child × FileStore :=
  let started : Except Fault Shell.Step := do
    if launch.hasNul then throw .nulInArgument
    let location ← launch.startDirectory
    let search := Program.searchPath (launch.environment.text? "PATH")
    let loaded ← Program.load launch.files location search (launch.arguments.head?.getD "")
      launch.arguments.tail
    return Shell.start Shell.depth loaded
      { process := launch.newProcess location
        trace :=
          { files := launch.files
            now := launch.now
            written := []
            opened := [(1, .outside), (0, .device .null)]
            openings := 2
            held := []
            queues := []
            started := 0 }
        flow := .going }
  match started with
  | .error fault => (.error fault, launch.files)
  | .ok step =>
      (.ok
        { status := step.ending
          exitsAfter := step.process.time
          written := step.trace.bytes
          closesAfter := max (step.trace.heldUntil 1) step.process.time },
        step.trace.files)

namespace Host

-- A host with a directory to work in.
def standard (directory : Location) (environment : Environment) (now : Time) (uptime : Nat) :
    Host :=
  { files := (FileStore.standard now).makeDirectories now directory
    directory
    environment
    now
    uptime
    scratchCount := 0
    log := []
    system := .standard }

end Host

end MakeCheck
