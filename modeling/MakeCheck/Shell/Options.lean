import MakeCheck.Shell.Script

namespace MakeCheck.Shell

-- What a shell was told about how to run scripts: what it understands, and the names of the options
-- that are on.
structure Options where
  dialect : Dialect
  names : List String
deriving DecidableEq

namespace Options

def standard : Options :=
  ⟨.plain, []⟩

-- The options of the extended dialect that are on from the start.
def extended : Options :=
  ⟨.extended, ["braceexpand", "hashall", "interactive-comments"]⟩

def has (options : Options) (name : String) : Bool :=
  options.names.contains name

def turn (options : Options) (on : Bool) (name : String) : Options :=
  let others := options.names.filter (· != name)
  { options with names := if on then name :: others else others }

def stopsOnFailure (options : Options) : Bool :=
  options.has "errexit"

def needsParameters (options : Options) : Bool :=
  options.has "nounset"

def showsCommands (options : Options) : Bool :=
  options.has "xtrace"

def showsLines (options : Options) : Bool :=
  options.has "verbose"

def keepsPatterns (options : Options) : Bool :=
  options.has "noglob"

def keepsFiles (options : Options) : Bool :=
  options.has "noclobber"

def exportsAll (options : Options) : Bool :=
  options.has "allexport"

def watchesPipes (options : Options) : Bool :=
  options.has "pipefail"

def runsNothing (options : Options) : Bool :=
  options.has "noexec"

-- The options by their names, and the letters of those that have one.
def known : List (String × Option Char) :=
  [("errexit", some 'e'), ("noglob", some 'f'), ("ignoreeof", some 'I'), ("interactive", some 'i'),
    ("monitor", some 'm'), ("noexec", some 'n'), ("stdin", some 's'), ("xtrace", some 'x'),
    ("verbose", some 'v'), ("vi", some 'V'), ("emacs", some 'E'), ("noclobber", some 'C'),
    ("allexport", some 'a'), ("notify", some 'b'), ("nounset", some 'u'), ("privileged", some 'p'),
    ("nolog", none), ("debug", none)]

-- The options of the extended dialect, in the order in which they are shown.
def knownExtended : List (String × Option Char) :=
  [("allexport", some 'a'), ("braceexpand", some 'B'), ("emacs", none), ("errexit", some 'e'),
    ("errtrace", some 'E'), ("functrace", some 'T'), ("hashall", some 'h'),
    ("histexpand", some 'H'), ("history", none), ("ignoreeof", none),
    ("interactive-comments", none), ("keyword", some 'k'), ("monitor", some 'm'),
    ("noclobber", some 'C'), ("noexec", some 'n'), ("noglob", some 'f'), ("nolog", none),
    ("notify", some 'b'), ("nounset", some 'u'), ("onecmd", some 't'), ("physical", some 'P'),
    ("pipefail", none), ("posix", none), ("privileged", some 'p'), ("verbose", some 'v'),
    ("vi", none), ("xtrace", some 'x')]

-- The order in which letters of options are told. The last ones tell where the script comes from.
def letterOrder : List Char :=
  ['a', 'b', 'e', 'f', 'h', 'i', 'k', 'm', 'n', 'p', 't', 'u', 'v', 'x', 'B', 'C', 'E', 'H', 'P',
    'T', 'c', 's']

def sourceLetters : List (String × Option Char) :=
  [("text", some 'c'), ("stdin", some 's')]

def letters (options : Options) : String :=
  let lettersOf (known : List (String × Option Char)) : List Char :=
    (known.filter fun entry => options.has entry.1).filterMap (·.2)
  match options.dialect with
  | .plain => String.ofList (lettersOf known).reverse
  | .extended =>
      let on := lettersOf (knownExtended ++ sourceLetters)
      String.ofList (letterOrder.filter on.contains)

-- Switches for the treatment of patterns and of much else, and whether they are on from the start.
def switches : List (String × Bool) :=
  [("autocd", false), ("assoc_expand_once", false), ("cdable_vars", false), ("cdspell", false),
    ("checkhash", false), ("checkjobs", false), ("checkwinsize", true), ("cmdhist", true),
    ("compat31", false), ("compat32", false), ("compat40", false), ("compat41", false),
    ("compat42", false), ("compat43", false), ("compat44", false), ("complete_fullquote", true),
    ("direxpand", false), ("dirspell", false), ("dotglob", false), ("execfail", false),
    ("expand_aliases", false), ("extdebug", false), ("extglob", false), ("extquote", true),
    ("failglob", false), ("force_fignore", true), ("globasciiranges", true),
    ("globskipdots", true), ("globstar", false), ("gnu_errfmt", false), ("histappend", false),
    ("histreedit", false), ("histverify", false), ("hostcomplete", true), ("huponexit", false),
    ("inherit_errexit", false), ("interactive_comments", true), ("lastpipe", false),
    ("lithist", false), ("localvar_inherit", false), ("localvar_unset", false),
    ("login_shell", false), ("mailwarn", false), ("no_empty_cmd_completion", false),
    ("nocaseglob", false), ("nocasematch", false), ("noexpand_translation", false),
    ("nullglob", false), ("patsub_replacement", true), ("progcomp", true),
    ("progcomp_alias", false), ("promptvars", true), ("restricted_shell", false),
    ("shift_verbose", false), ("sourcepath", true), ("varredir_close", false),
    ("xpg_echo", false)]

-- Whether a switch is on. A name with a mark in front tells that it differs from the start.
def isSwitched (options : Options) (name : String) : Bool :=
  (switches.lookup name).getD false != options.has ("~" ++ name)

def switch (options : Options) (on : Bool) (name : String) : Options :=
  options.turn ((switches.lookup name).getD false != on) ("~" ++ name)

end Options

end MakeCheck.Shell
