import MakeCheck.Make.Rule

namespace MakeCheck.Make

open Text Program

-- The endings that rules for pairs of endings are about.
def knownEndings : List String :=
  [".out", ".a", ".ln", ".o", ".c", ".cc", ".C", ".cpp", ".p", ".f", ".F", ".m", ".r", ".y", ".l",
    ".ym", ".yl", ".s", ".S", ".mod", ".sym", ".def", ".h", ".info", ".dvi", ".tex", ".texinfo",
    ".texi", ".txinfo", ".w", ".ch", ".web", ".sh", ".elc", ".el"]

-- Variables that are there from the start, with values that are looked at anew at each use.
def knownVariables : List (String × String) :=
  [(".INCLUDE_DIRS", "/usr/local/include /usr/include /usr/include"),
    (".LIBPATTERNS", "lib%.so lib%.a"), ("AR", "ar"), ("ARFLAGS", "rv"), ("AS", "as"),
    ("CC", "cc"), ("CHECKOUT,v", "+$(if $(wildcard $@),,$(CO) $(COFLAGS) $< $@)"), ("CO", "co"),
    ("COFLAGS", ""), ("COMPILE.C", "$(COMPILE.cc)"),
    ("COMPILE.F", "$(FC) $(FFLAGS) $(CPPFLAGS) $(TARGET_ARCH) -c"),
    ("COMPILE.S", "$(CC) $(ASFLAGS) $(CPPFLAGS) $(TARGET_MACH) -c"),
    ("COMPILE.c", "$(CC) $(CFLAGS) $(CPPFLAGS) $(TARGET_ARCH) -c"),
    ("COMPILE.cc", "$(CXX) $(CXXFLAGS) $(CPPFLAGS) $(TARGET_ARCH) -c"),
    ("COMPILE.cpp", "$(COMPILE.cc)"),
    ("COMPILE.def", "$(M2C) $(M2FLAGS) $(DEFFLAGS) $(TARGET_ARCH)"),
    ("COMPILE.f", "$(FC) $(FFLAGS) $(TARGET_ARCH) -c"),
    ("COMPILE.m", "$(OBJC) $(OBJCFLAGS) $(CPPFLAGS) $(TARGET_ARCH) -c"),
    ("COMPILE.mod", "$(M2C) $(M2FLAGS) $(MODFLAGS) $(TARGET_ARCH)"),
    ("COMPILE.p", "$(PC) $(PFLAGS) $(CPPFLAGS) $(TARGET_ARCH) -c"),
    ("COMPILE.r", "$(FC) $(FFLAGS) $(RFLAGS) $(TARGET_ARCH) -c"),
    ("COMPILE.s", "$(AS) $(ASFLAGS) $(TARGET_MACH)"), ("CPP", "$(CC) -E"), ("CTANGLE", "ctangle"),
    ("CWEAVE", "cweave"), ("CXX", "g++"), ("F77", "$(FC)"), ("F77FLAGS", "$(FFLAGS)"),
    ("FC", "f77"), ("GET", "get"), ("LD", "ld"), ("LEX", "lex"), ("LEX.l", "$(LEX) $(LFLAGS) -t"),
    ("LEX.m", "$(LEX) $(LFLAGS) -t"), ("LINK.C", "$(LINK.cc)"),
    ("LINK.F", "$(FC) $(FFLAGS) $(CPPFLAGS) $(LDFLAGS) $(TARGET_ARCH)"),
    ("LINK.S", "$(CC) $(ASFLAGS) $(CPPFLAGS) $(LDFLAGS) $(TARGET_MACH)"),
    ("LINK.c", "$(CC) $(CFLAGS) $(CPPFLAGS) $(LDFLAGS) $(TARGET_ARCH)"),
    ("LINK.cc", "$(CXX) $(CXXFLAGS) $(CPPFLAGS) $(LDFLAGS) $(TARGET_ARCH)"),
    ("LINK.cpp", "$(LINK.cc)"), ("LINK.f", "$(FC) $(FFLAGS) $(LDFLAGS) $(TARGET_ARCH)"),
    ("LINK.m", "$(OBJC) $(OBJCFLAGS) $(CPPFLAGS) $(LDFLAGS) $(TARGET_ARCH)"),
    ("LINK.o", "$(CC) $(LDFLAGS) $(TARGET_ARCH)"),
    ("LINK.p", "$(PC) $(PFLAGS) $(CPPFLAGS) $(LDFLAGS) $(TARGET_ARCH)"),
    ("LINK.r", "$(FC) $(FFLAGS) $(RFLAGS) $(LDFLAGS) $(TARGET_ARCH)"),
    ("LINK.s", "$(CC) $(ASFLAGS) $(LDFLAGS) $(TARGET_MACH)"), ("LINT", "lint"),
    ("LINT.c", "$(LINT) $(LINTFLAGS) $(CPPFLAGS) $(TARGET_ARCH)"), ("M2C", "m2c"),
    ("MAKE", "$(MAKE_COMMAND)"), ("MAKEINFO", "makeinfo"), ("OBJC", "cc"),
    ("OUTPUT_OPTION", "-o $@"), ("PC", "pc"),
    ("PREPROCESS.F", "$(FC) $(FFLAGS) $(CPPFLAGS) $(TARGET_ARCH) -F"),
    ("PREPROCESS.S", "$(CC) -E $(CPPFLAGS)"),
    ("PREPROCESS.r", "$(FC) $(FFLAGS) $(RFLAGS) $(TARGET_ARCH) -F"), ("RM", "rm -f"),
    ("TANGLE", "tangle"), ("TEX", "tex"), ("TEXI2DVI", "texi2dvi"), ("WEAVE", "weave"),
    ("YACC", "yacc"), ("YACC.m", "$(YACC) $(YFLAGS)"), ("YACC.y", "$(YACC) $(YFLAGS)")]

def plainVariables : List (String × String) :=
  [(".LOADED", ""), (".RECIPEPREFIX", ""), (".SHELLFLAGS", "-c"), (".VARIABLES", ""),
    ("MAKEFILES", ""), ("MAKE_HOST", "x86_64-pc-linux-gnu"), ("MAKE_VERSION", "4.3")]

def knownFeatures : List String :=
  ["target-specific", "order-only", "second-expansion", "else-if", "shortest-stem", "undefine",
    "oneshell", "nocomment", "grouped-target", "extra-prereqs", "archives", "jobserver",
    "output-sync", "check-symlink", "load"]

-- Commands for names of one ending, or of two of which the first makes the second.
def knownCommands : List (String × String) :=
  [(".C", "$(LINK.C) $^ $(LOADLIBES) $(LDLIBS) -o $@"),
    (".C.o", "$(COMPILE.C) $(OUTPUT_OPTION) $<"),
    (".F", "$(LINK.F) $^ $(LOADLIBES) $(LDLIBS) -o $@"),
    (".F.f", "$(PREPROCESS.F) $(OUTPUT_OPTION) $<"), (".F.o", "$(COMPILE.F) $(OUTPUT_OPTION) $<"),
    (".S", "$(LINK.S) $^ $(LOADLIBES) $(LDLIBS) -o $@"), (".S.o", "$(COMPILE.S) -o $@ $<"),
    (".S.s", "$(PREPROCESS.S) $< > $@"), (".c", "$(LINK.c) $^ $(LOADLIBES) $(LDLIBS) -o $@"),
    (".c.ln", "$(LINT.c) -C$* $<"), (".c.o", "$(COMPILE.c) $(OUTPUT_OPTION) $<"),
    (".cc", "$(LINK.cc) $^ $(LOADLIBES) $(LDLIBS) -o $@"),
    (".cc.o", "$(COMPILE.cc) $(OUTPUT_OPTION) $<"),
    (".cpp", "$(LINK.cpp) $^ $(LOADLIBES) $(LDLIBS) -o $@"),
    (".cpp.o", "$(COMPILE.cpp) $(OUTPUT_OPTION) $<"), (".def.sym", "$(COMPILE.def) -o $@ $<"),
    (".f", "$(LINK.f) $^ $(LOADLIBES) $(LDLIBS) -o $@"),
    (".f.o", "$(COMPILE.f) $(OUTPUT_OPTION) $<"), (".l.c", "@$(RM) $@ \n $(LEX.l) $< > $@"),
    (".l.ln", "@$(RM) $*.c\n $(LEX.l) $< > $*.c\n$(LINT.c) -i $*.c -o $@\n $(RM) $*.c"),
    (".l.r", "$(LEX.l) $< > $@ \n mv -f lex.yy.r $@"), (".lm.m", "@$(RM) $@ \n $(LEX.m) $< > $@"),
    (".m", "$(LINK.m) $^ $(LOADLIBES) $(LDLIBS) -o $@"),
    (".m.o", "$(COMPILE.m) $(OUTPUT_OPTION) $<"), (".mod", "$(COMPILE.mod) -o $@ -e $@ $^"),
    (".mod.o", "$(COMPILE.mod) -o $@ $<"), (".o", "$(LINK.o) $^ $(LOADLIBES) $(LDLIBS) -o $@"),
    (".p", "$(LINK.p) $^ $(LOADLIBES) $(LDLIBS) -o $@"),
    (".p.o", "$(COMPILE.p) $(OUTPUT_OPTION) $<"),
    (".r", "$(LINK.r) $^ $(LOADLIBES) $(LDLIBS) -o $@"),
    (".r.f", "$(PREPROCESS.r) $(OUTPUT_OPTION) $<"), (".r.o", "$(COMPILE.r) $(OUTPUT_OPTION) $<"),
    (".s", "$(LINK.s) $^ $(LOADLIBES) $(LDLIBS) -o $@"), (".s.o", "$(COMPILE.s) -o $@ $<"),
    (".sh", "cat $< >$@ \n chmod a+x $@"), (".tex.dvi", "$(TEX) $<"),
    (".texi.dvi", "$(TEXI2DVI) $(TEXI2DVI_FLAGS) $<"),
    (".texi.info", "$(MAKEINFO) $(MAKEINFO_FLAGS) $< -o $@"),
    (".texinfo.dvi", "$(TEXI2DVI) $(TEXI2DVI_FLAGS) $<"),
    (".texinfo.info", "$(MAKEINFO) $(MAKEINFO_FLAGS) $< -o $@"),
    (".txinfo.dvi", "$(TEXI2DVI) $(TEXI2DVI_FLAGS) $<"),
    (".txinfo.info", "$(MAKEINFO) $(MAKEINFO_FLAGS) $< -o $@"), (".w.c", "$(CTANGLE) $< - $@"),
    (".w.tex", "$(CWEAVE) $< - $@"), (".web.p", "$(TANGLE) $<"), (".web.tex", "$(WEAVE) $<"),
    (".y.c", "$(YACC.y) $< \n mv -f y.tab.c $@"),
    (".y.ln", "$(YACC.y) $< \n $(LINT.c) -C$* y.tab.c \n $(RM) y.tab.c"),
    (".ym.m", "$(YACC.m) $< \n mv -f y.tab.c $@")]

-- Patterns of names with those that they are made from, and the commands.
def knownPatterns : List (String × List String × String) :=
  [("%.out", ["%"], "@rm -f $@ \n cp $< $@"), ("%.c", ["%.w", "%.ch"], "$(CTANGLE) $^ $@"),
    ("%.tex", ["%.w", "%.ch"], "$(CWEAVE) $^ $@")]

-- Patterns that are not used for what is only on the way to another name.
def finalPatterns : List (String × List String × String) :=
  [("%", ["%,v"], "$(CHECKOUT,v)"), ("%", ["RCS/%,v"], "$(CHECKOUT,v)"),
    ("%", ["RCS/%"], "$(CHECKOUT,v)"),
    ("%", ["s.%"], "$(GET) $(GFLAGS) $(SCCS_OUTPUT_OPTION) $<"),
    ("%", ["SCCS/s.%"], "$(GET) $(GFLAGS) $(SCCS_OUTPUT_OPTION) $<")]

def partVariables : List (String × String) :=
  ["@", "%", "*", "<", "?", "^", "+"].flatMap fun name =>
    [(name ++ "D", "$(patsubst %/,%,$(dir $" ++ name ++ "))"),
      (name ++ "F", "$(notdir $" ++ name ++ ")")]

namespace Workshop

-- A variable with a value that is there from the start, unless it comes from outside.
def addKnown (shop : Workshop) (origin : Origin) (isRecursive : Bool) (entry : String × String) :
    Workshop :=
  let content : Variable := { Variable.plain entry.2.toList origin with isRecursive }
  shop.put none entry.1 content

def addKnownVariables (shop : Workshop) : Workshop :=
  let parts := partVariables.foldl (·.addKnown .automatic true ·) shop
  let plain := plainVariables.foldl (·.addKnown .builtin false ·) parts
  let plain := plain.addKnown .builtin false (".FEATURES", " ".intercalate knownFeatures)
  let plain := plain.addKnown .builtin false ("SUFFIXES",
    if shop.settings.lacksRules then "" else " ".intercalate knownEndings)
  if shop.settings.lacksVariables then
    plain.addKnown .builtin true ("MAKE", "$(MAKE_COMMAND)")
  else knownVariables.foldl (·.addKnown .builtin true ·) plain

-- The endings, and the commands for names of one or two of them.
def addKnownCommands (shop : Workshop) : Workshop :=
  let started := { shop.enter ".SUFFIXES" with counter := shop.counter + 1 }
  if shop.settings.lacksRules then
    started.change ".SUFFIXES" 0 fun target => { target with isTarget := true }
  else
    let needs := knownEndings.map fun ending => Need.plain ending false
    let suffixed := (started.enterNeeds needs).change ".SUFFIXES" 0 fun target =>
      { target with needs, isTarget := true }
    knownCommands.foldl
      (fun (shop : Workshop) (name, commands) =>
        let recipe : Recipe := ⟨shop.counter, none, commands.toList⟩
        let changed := (shop.enter name).change name 0 fun target =>
          { target with recipe := some recipe }
        { changed with counter := shop.counter + 1 })
      suffixed

-- A rule that makes names of one ending from those of another.
def addEnding (shop : Workshop) (target : String) (source : Option String)
    (recipe : Option Recipe) : Workshop :=
  let needs := source.toList.map fun source => Need.plain ("%" ++ source) false
  { shop.addPattern ⟨shop.counter, [('%' :: target.toList)], needs, recipe, false⟩ false with
    counter := shop.counter + 1 }

-- The suffixes that rules are about, and pairs of them that are the names of rules.
def endings (shop : Workshop) : List String :=
  ((shop.target? ".SUFFIXES").map (·.needs.map (·.name))).getD []

def addEndings (shop : Workshop) : Workshop :=
  let endings := shop.endings
  let recipeOf (name : String) : Option Recipe := (shop.target? name).bind (·.recipe)
  endings.foldl
    (fun shop source =>
      let shop := shop.addEnding source none none
      let shop := match recipeOf source with
        | some recipe => shop.addEnding "" (some source) (some recipe)
        | none => shop
      endings.foldl
        (fun shop target =>
          if source = target then shop
          else
            match recipeOf (source ++ target) with
            | some recipe => shop.addEnding target (some source) (some recipe)
            | none => shop)
        shop)
    shop

-- Rules named by endings whose needs do not count, each as often as that is found.
def idleNeeds (shop : Workshop) : List (Option Place) :=
  shop.endings.flatMap fun source =>
    shop.endings.filterMap fun target =>
      if source = target then none
      else
        match shop.target? (source ++ target) with
        | some found =>
            if found.needs.isEmpty then none else found.recipe.map (·.place)
        | none => none

def addPatterns (isFinal : Bool) (shop : Workshop)
    (entries : List (String × List String × String)) : Workshop :=
  entries.foldl
    (fun (shop : Workshop) (target, needs, commands) =>
      { shop.addPattern
          ⟨shop.counter, [target.toList], needs.map fun need => Need.plain need false,
            some ⟨shop.counter, none, commands.toList⟩, isFinal⟩ false with
        counter := shop.counter + 1 })
    shop

def addKnownRules (shop : Workshop) : Workshop :=
  let shop := shop.addEndings
  if shop.settings.lacksRules then shop
  else addPatterns true (addPatterns false shop knownPatterns) finalPatterns

end Workshop

end MakeCheck.Make
