import MakeCheck.Check.Rules
import MakeCheck.Proofs.FileStore.Copy
import MakeCheck.Proofs.Loading
import MakeCheck.Proofs.Outline.Detection

namespace MakeCheck

open Outline

section Marks

-- The end of the line of a rule.
def Rule.mark (rule : Rule) : String :=
  if rule.isEmpty then "(empty)" else toString rule.recipe.length ++ " recipe line(s)"

theorem Makefile.ruleLine_eq (rule : Rule) :
    ruleLine false rule = "  " ++ rule.targets.text ++ ": " ++
      " ".intercalate rule.prerequisites ++ "  " ++ rule.mark :=
  rfl

theorem eq_of_toString_eq {n m : Nat} (h : toString n = toString m) : n = m := by
  have hread (k : Nat) : Nat.ofDigitChars 10 (Nat.toDigits 10 k) 0 = k :=
    Nat.ofDigitChars_toDigits (by decide) (by decide)
  have hdigits : Nat.toDigits 10 n = Nat.toDigits 10 m := String.ofList_inj.mp h
  rw [← hread n, hdigits, hread]

theorem Rule.length_recipe_of_mark {rule other : Rule} (hmark : rule.mark = other.mark) :
    rule.recipe.length = other.recipe.length := by
  have hlong (n : Nat) : (toString n ++ " recipe line(s)").length ≠ "(empty)".length := by
    have htail : " recipe line(s)".length = 15 := rfl
    have hempty : "(empty)".length = 7 := rfl
    rw [String.length_append, htail, hempty]
    omega
  unfold mark at hmark
  by_cases hrule : rule.isEmpty = true <;> by_cases hother : other.isEmpty = true
  · rw [isEmpty, List.isEmpty_iff] at hrule hother
    rw [hrule, hother]
  · rw [if_pos hrule, if_neg hother] at hmark
    exact absurd (congrArg String.length hmark.symm) (hlong _)
  · rw [if_neg hrule, if_pos hother] at hmark
    exact absurd (congrArg String.length hmark) (hlong _)
  · rw [if_neg hrule, if_neg hother, String.append_left_inj] at hmark
    exact eq_of_toString_eq hmark

-- A line can end like that of an empty rule for no other reason.
theorem Makefile.empty_suffix_ruleLine_iff (rule : Rule) :
    "(empty)".toList <:+ (ruleLine false rule).toList ↔ rule.isEmpty = true := by
  rw [ruleLine_eq, Rule.mark]
  by_cases hrule : rule.isEmpty = true
  · rw [if_pos hrule, iff_true_right hrule, String.toList_append]
    exact List.suffix_append _ _
  · rw [if_neg hrule, iff_false_right hrule, ← String.append_assoc, String.toList_append]
    intro hsuffix
    have htail := List.suffix_of_suffix_length_le hsuffix (List.suffix_append _ _) (by decide)
    exact absurd htail (by decide)

theorem Check.recipeEmpty_eq_ok_iff {makefile : Makefile} {targets : Targets} {rule : Rule}
    (hrule : makefile.rule? targets = some rule) :
    recipeEmpty makefile targets = .ok () ↔ rule.isEmpty = true := by
  rw [recipeEmpty, hasRule, hrule]
  by_cases hempty : rule.isEmpty = true <;> simp [hempty]

end Marks

section Lines

variable {makefile other : Makefile}

-- A file without rules is listed like no file with one.
theorem Makefile.map_ruleLine_of_ruleLines
    (hlines : makefile.ruleLines false = other.ruleLines false) :
    makefile.rules.map (ruleLine false) = other.rules.map (ruleLine false) := by
  have hcolon (rules : List Rule) : rules.map (ruleLine false) ≠ ["  " ++ "no rules found"] := by
    intro hnone
    have hmem : "  " ++ "no rules found" ∈ rules.map (ruleLine false) := by simp [hnone]
    obtain ⟨rule, -, hrule⟩ := List.mem_map.mp hmem
    have hin : ':' ∈ (ruleLine false rule).toList := by
      simp [ruleLine_eq, String.toList_append]
    rw [hrule] at hin
    exact absurd hin (by decide)
  unfold ruleLines at hlines
  by_cases hnone : makefile.rules.isEmpty = true <;> by_cases hnone' : other.rules.isEmpty = true
  · rw [List.isEmpty_iff] at hnone hnone'
    rw [hnone, hnone']
  · rw [if_pos hnone, if_neg hnone'] at hlines
    exact absurd hlines.symm (hcolon other.rules)
  · rw [if_neg hnone, if_pos hnone'] at hlines
    exact absurd hlines (hcolon makefile.rules)
  · rwa [if_neg hnone, if_neg hnone'] at hlines

theorem Makefile.ruleLines_congr (colours : Bool) (hrules : makefile.rules = other.rules) :
    makefile.ruleLines colours = other.ruleLines colours := by
  rw [ruleLines, ruleLines, hrules]

end Lines

-- The lines of the rules are the same with and without the definitions only if the rules are.
theorem ruleLines_parse_iff (file : String) (verbose again : Bool) :
    (Makefile.parse ⟨false, verbose⟩ file).ruleLines false =
        (Makefile.parse ⟨true, again⟩ file).ruleLines false ↔
      KeepsApart (physicalLines file) := by
  constructor
  · intro hlines
    have hmap := Makefile.map_ruleLine_of_ruleLines hlines
    have hlength := congrArg List.length hmap
    rw [List.length_map, List.length_map] at hlength
    have hplainly := definesPlainly_of_length file verbose again hlength
    have hsame := forall₂_rules_parse file verbose again hplainly
    have hequal : List.Forall₂ (fun rule thinned =>
        Makefile.ruleLine false rule = Makefile.ruleLine false thinned)
        (Makefile.parse ⟨false, verbose⟩ file).rules (Makefile.parse ⟨true, again⟩ file).rules := by
      rw [← List.forall₂_map_right_iff, ← List.forall₂_map_left_iff, List.forall₂_eq_eq_eq]
      exact hmap
    refine keepsApart_of_lengths file verbose again hplainly fun rules hrules => ?_
    obtain ⟨htargets, hprerequisites⟩ := List.forall₂_zip hsame hrules
    have hline := List.forall₂_zip hequal hrules
    rw [Makefile.ruleLine_eq, Makefile.ruleLine_eq, htargets, hprerequisites,
      String.append_right_inj] at hline
    exact Rule.length_recipe_of_mark hline
  · intro hlines
    exact Makefile.ruleLines_congr false (hlines.rules_parse_eq file verbose again).symm

-- With the definitions the program lists the rules as a case about the same file sees them.
-- Without them it does so for a file whose definitions keep apart from its rules, and for no other.
theorem listed_rules_of_readText {host : Host} {path : Path} {file : String}
    (hread : host.files.readText host.directory path = .ok file) :
    let listed (definitions : Bool) : Makefile :=
      { Makefile.parse ⟨definitions, host.environment.debugMode⟩ file with origin := .path path }
    (∀ definitions, ((CommandLine.execute false (.rules path definitions false)).run.run host).1 =
        .ok { success := true, output := (listed definitions).listing false }) ∧
      ((listed false).ruleLines false = (listed true).ruleLines false ↔
        KeepsApart (physicalLines file)) ∧
      ∀ base definitions targets rule, definitions = true ∨ KeepsApart (physicalLines file) →
        (listed definitions).rule? targets = some rule →
        ("(empty)".toList <:+ (Makefile.ruleLine false rule).toList ↔
          ∃ case, ((MakefileCase.load base path).run.run host).1 = .ok case ∧
            Check.recipeEmpty case.makefile targets = .ok ()) := by
  intro listed
  refine ⟨fun definitions => CommandLine.execute_rules_of_readText hread false definitions,
    ruleLines_parse_iff file _ _, fun base definitions targets rule hdefinitions hrule => ?_⟩
  have hrules : (listed definitions).rules = (listed true).rules := by
    cases definitions with
    | true => rfl
    | false =>
        have hapart := hdefinitions.resolve_left Bool.false_ne_true
        exact (hapart.rules_parse_eq file _ _).symm
  have hgraded : (listed true).rule? targets = some rule := by
    rw [← hrule, Makefile.rule?, Makefile.rule?, hrules]
  have hload : ((MakefileCase.load base path).run.run host).1 = .ok ⟨base, path, listed true⟩ :=
    MakefileCase.load_of_readText hread base
  rw [Makefile.empty_suffix_ruleLine_iff, ← Check.recipeEmpty_eq_ok_iff hgraded]
  constructor
  · intro hempty
    exact ⟨_, hload, hempty⟩
  · rintro ⟨case, hcase, hempty⟩
    obtain rfl : ⟨base, path, listed true⟩ = case := Except.ok.inj (hload.symm.trans hcase)
    exact hempty

section Example

-- A system with one thing in it besides its root, and the user who works with it.
def Host.showing (user : User) (node : Node) : Host :=
  .over
    { user
      entries := [([], 0), (["Makefile"], 1)]
      inodes := [(0, .ofRoot .directory 0o755 0), (1, node)] }

-- A system with one file.
def Host.holding (bytes : List UInt8) : Host :=
  .showing .root (.ofRoot (.file bytes) 0o644 0)

theorem isOneName_makefile : FileStore.IsOneName "Makefile" :=
  ⟨by decide, by decide, by decide, by decide⟩

section Showing

variable {user : User} {node : Node}

theorem Node.allows_enter (user : User) : (ofRoot .directory 0o755 0).allows user .enter = true := by
  rw [allows, shift]
  split
  · simp [ofRoot, Right.bit]
  · split <;> simp [ofRoot, Right.bit]

-- Anyone may look for names in the root.
theorem Host.resolve_showing (hplain : node.content.isLink = false) :
    (showing user node).files.resolve [] ⟨"Makefile"⟩ = .ok ["Makefile"] := by
  have hopen : (showing user node).files.obstacle? [] "Makefile" = none := by
    change (Node.ofRoot .directory 0o755 0).obstacle? user "Makefile" = none
    rw [Node.obstacle?, if_neg (by decide), if_neg (by decide), Node.refusal?,
      Node.allows_enter, if_pos rfl]
    rfl
  have hcontent : (showing user node).files.content? ["Makefile"] = some node.content := rfl
  refine FileStore.resolve_of_isOneName isOneName_makefile hopen fun target hlink => ?_
  rw [hcontent] at hlink
  rw [Option.some.inj hlink] at hplain
  cases hplain

theorem Host.find_showing (hplain : node.content.isLink = false) :
    (showing user node).files.find [] ⟨"Makefile"⟩ = .ok (["Makefile"], node) :=
  FileStore.find_of_resolve (resolve_showing hplain) rfl

-- What is there is read unless the user has no right to it or the system does not get at it.
theorem Host.read_showing (hplain : node.content.isLink = false) :
    (showing user node).files.read [] ⟨"Makefile"⟩ = match node.refusal? user .read with
      | some fault => .error fault
      | none => FileStore.bytesOf node.content := by
  rw [FileStore.read, FileStore.openOld, find_showing hplain]
  change (match node.refusal? user .read with
    | some fault => Except.error fault
    | none => .ok (["Makefile"], node)) >>= _ = _
  cases node.refusal? user .read <;> rfl

theorem Host.read_holding (bytes : List UInt8) :
    (holding bytes).files.read [] ⟨"Makefile"⟩ = .ok bytes :=
  read_showing rfl

end Showing

theorem Host.readText_holding {bytes : List UInt8} {file : String}
    (hfile : Text.Utf8.decode? bytes = some file) :
    (holding bytes).files.readText [] ⟨"Makefile"⟩ = .ok file := by
  unfold FileStore.readText
  rw [read_holding]
  simp only [bind, Except.bind, hfile]

-- The assignment under the rule is no line of its recipe for a case, nor for the listing that shows
-- definitions.
theorem listed_rules_of_readText_assignment :
    (Host.holding [97, 58, 10, 88, 61, 49]).files.readText [] ⟨"Makefile"⟩ = .ok "a:\nX=1" ∧
      "(empty)".toList <:+ (Makefile.ruleLine false ⟨.single "a", [], []⟩).toList ∧
      ∃ case, ((MakefileCase.load ⟨false, .given 0, none⟩ ⟨"Makefile"⟩).run.run
          (Host.holding [97, 58, 10, 88, 61, 49])).1 = .ok case ∧
        Check.recipeEmpty case.makefile (.single "a") = .ok () := by
  have hread : (Host.holding [97, 58, 10, 88, 61, 49]).files.readText [] ⟨"Makefile"⟩ =
      .ok "a:\nX=1" := Host.readText_holding (by decide)
  have hmark : "(empty)".toList <:+ (Makefile.ruleLine false ⟨.single "a", [], []⟩).toList :=
    (Makefile.empty_suffix_ruleLine_iff _).mpr rfl
  obtain ⟨-, -, hmarks⟩ := listed_rules_of_readText hread
  have hagree := hmarks ⟨false, .given 0, none⟩ true (.single "a") ⟨.single "a", [], []⟩
    (.inl rfl) (by decide)
  exact ⟨hread, hmark, hagree.mp hmark⟩

-- Without them the same line counts as a command.
theorem listed_rules_differ :
    ((CommandLine.execute false (.rules ⟨"Makefile"⟩ false false)).run.run
        (Host.holding [97, 58, 10, 88, 61, 49])).1 =
        .ok { success := true, output := "Makefile Makefile\n  a:   1 recipe line(s)\n" } ∧
      ((CommandLine.execute false (.rules ⟨"Makefile"⟩ true false)).run.run
        (Host.holding [97, 58, 10, 88, 61, 49])).1 =
        .ok { success := true
              output := "Makefile Makefile\n  a:   (empty)\nVariables\n  X = 1\n" } ∧
      ∃ case, ((MakefileCase.load ⟨false, .given 0, none⟩ ⟨"Makefile"⟩).run.run
          (Host.holding [97, 58, 10, 88, 61, 49])).1 = .ok case ∧
        Check.recipeEmpty case.makefile (.single "a") = .ok () := by
  have hread : (Host.holding [97, 58, 10, 88, 61, 49]).files.readText
      (Host.holding [97, 58, 10, 88, 61, 49]).directory ⟨"Makefile"⟩ = .ok "a:\nX=1" :=
    Host.readText_holding (by decide)
  rw [CommandLine.execute_rules_of_readText hread, CommandLine.execute_rules_of_readText hread]
  exact ⟨congrArg Except.ok (by decide), congrArg Except.ok (by decide), _,
    MakefileCase.load_of_readText hread _, by decide⟩

end Example

end MakeCheck
