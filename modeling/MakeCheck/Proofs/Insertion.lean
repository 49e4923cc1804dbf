import MakeCheck.Proofs.Definition
import MakeCheck.Proofs.Outline.Reading
import MakeCheck.Proofs.Growth

namespace MakeCheck

open Text

section Lines

theorem physicalLines_of_not_mem {line : String} (hline : '\n' ∉ line.toList) :
    physicalLines line = [line.toList.filter (· != '\r')] := by
  rw [physicalLines, List.splitOn_eq_singleton hline, List.map_singleton]

theorem physicalLines_intercalate (line : String) (lines : List String) :
    physicalLines ("\n".intercalate (line :: lines)) =
      (line :: lines).flatMap physicalLines := by
  induction lines generalizing line with
  | nil => simp
  | cons next lines ih =>
      rw [String.intercalate_cons_cons, physicalLines_append, ih]
      rfl

-- A file without lines and one of an empty line are the same text.
theorem ofLines_intercalate (detect : Bool) (lines : List String) :
    Scan.ofLines detect (physicalLines ("\n".intercalate lines)) =
      (lines.flatMap physicalLines).foldl (Scan.step detect) Scan.start := by
  cases lines with
  | nil => rfl
  | cons line lines => rw [physicalLines_intercalate, Scan.ofLines]

end Lines

-- A rule is open where the text ends.
def EndsOpen (detect : Bool) (file : String) : Prop :=
  Outline.IsOpen detect (physicalLines file) (physicalLines file).length

theorem endsOpen_iff (detect : Bool) (file : String) :
    EndsOpen detect file ↔ (Scan.ofLines detect (physicalLines file)).current.isSome = true :=
  (Outline.tracks_ofLines detect (physicalLines file)).isOpen.symm

namespace VariableDefinition

theorem ne_nil_of_ofLine? {line : List Char} {definition : VariableDefinition}
    (hf : ofLine? line = some definition) : line ≠ [] ∧ line.head? ≠ some '#' := by
  obtain ⟨name, gap, operator, value, rfl, hne, hname, -⟩ := ofLine?_eq_some_iff.mp hf
  refine ⟨by simp [hne], ?_⟩
  rw [List.head?_append_of_ne_nil _ hne]
  intro hhash
  exact absurd (hname '#' (List.mem_of_mem_head? hhash)) (by decide)

end VariableDefinition

namespace Scan

variable {detect : Bool} {scan : Scan} {raw : List Char}

theorem step_of_comment (hc : (trim raw).head? = some '#') : scan.step detect raw = scan := by
  have hline : scan.lineOf detect raw = .comment := Line.kind_iff.mp (.comment hc)
  rw [step, hline, add]

theorem step_of_definition {definition : VariableDefinition} (hdetect : detect = true)
    (hf : VariableDefinition.ofLine? (trim raw) = some definition) (htab : raw.head? ≠ some '\t') :
    scan.step detect raw = { scan with definitions := scan.definitions ++ [definition] } := by
  obtain ⟨hne, hc⟩ := VariableDefinition.ne_nil_of_ofLine? hf
  have hout : (detect && !scan.inRecipe raw) = true := by simp [hdetect, inRecipe, htab]
  have hline : scan.lineOf detect raw = .definition definition :=
    Line.kind_iff.mp (.definition definition hne hc hout hf)
  rw [step, hline, add]

-- A line of no kind that is known belongs to the rule that is open, if there is one.
theorem step_of_other (hb : trim raw ≠ []) (hc : (trim raw).head? ≠ some '#')
    (hd : (detect && !scan.inRecipe raw) = true → VariableDefinition.ofLine? (trim raw) = none)
    (hh : Header.ofLine? (trim raw) = none) :
    scan.step detect raw =
      { scan with current := scan.current.map (·.addLine (String.ofList (trim raw))) } := by
  have hline : scan.lineOf detect raw = .other (String.ofList (trim raw)) :=
    Line.kind_iff.mp (.other hb hc hd hh)
  rw [step, hline, add]

-- A line with a tab under an open rule.
theorem step_of_command (hopen : scan.current.isSome = true) (htab : raw.head? = some '\t')
    (hb : trim raw ≠ []) (hc : (trim raw).head? ≠ some '#')
    (hh : Header.ofLine? (trim raw) = none) :
    scan.step detect raw =
      { scan with current := scan.current.map (·.addLine (String.ofList (trim raw))) } := by
  have hin : (detect && !scan.inRecipe raw) = false := by simp [inRecipe, hopen, htab]
  exact step_of_other hb hc (by simp [hin]) hh

-- Outside of rules only definitions and headers count.
theorem step_of_idle (hclosed : scan.current = none)
    (hidle : trim raw = [] ∨ (detect = true → VariableDefinition.ofLine? (trim raw) = none) ∧
      Header.ofLine? (trim raw) = none) : scan.step detect raw = scan := by
  obtain ⟨closed, current, definitions⟩ := scan
  obtain rfl := hclosed
  by_cases hb : trim raw = []
  · rw [step_of_trim_eq_nil detect _ hb]
    simp [close]
  · obtain ⟨hd, hh⟩ := hidle.resolve_left hb
    by_cases hc : (trim raw).head? = some '#'
    · exact step_of_comment hc
    · have hline : lineOf detect ⟨closed, none, definitions⟩ raw =
          .other (String.ofList (trim raw)) :=
        Line.kind_iff.mp (.other hb hc (fun hon => hd (by simpa [inRecipe] using hon)) hh)
      rw [step, hline, add]
      rfl

end Scan

section Insertion

variable (options : ParseOptions) (above below : List String) (line : String)

-- A file and the file with one line more, as two continuations of the same scan.
theorem parse_intercalate :
    Makefile.parse options ("\n".intercalate (above ++ below)) =
      ((below.flatMap physicalLines).foldl (Scan.step options.detectDefinitions)
        (Scan.ofLines options.detectDefinitions (physicalLines ("\n".intercalate above)))).toMakefile
          options.detectDefinitions := by
  rw [Scan.parse_eq_toMakefile, ofLines_intercalate, ofLines_intercalate, List.flatMap_append,
    List.foldl_append]

theorem parse_intercalate_line (hline : '\n' ∉ line.toList) :
    Makefile.parse options ("\n".intercalate (above ++ line :: below)) =
      ((below.flatMap physicalLines).foldl (Scan.step options.detectDefinitions)
        ((Scan.ofLines options.detectDefinitions (physicalLines ("\n".intercalate above))).step
          options.detectDefinitions (line.toList.filter (· != '\r')))).toMakefile
            options.detectDefinitions := by
  rw [parse_intercalate, List.flatMap_cons, physicalLines_of_not_mem hline, List.foldl_append]
  rfl

-- What one line that is put into a file does to it: nothing, if it is a comment or stands idle
-- outside of rules. A definition joins the definitions and a command the rule that is open.
theorem parse_insert_line (hline : '\n' ∉ line.toList) :
    let raw := line.toList.filter (· != '\r')
    let before := Makefile.parse options ("\n".intercalate above)
    let plain := Makefile.parse options ("\n".intercalate (above ++ below))
    let found := Makefile.parse options ("\n".intercalate (above ++ line :: below))
    let isOpen := EndsOpen options.detectDefinitions ("\n".intercalate above)
    ((trim raw).head? = some '#' → found = plain) ∧
      (∀ definition, options.detectDefinitions = true →
        VariableDefinition.ofLine? (trim raw) = some definition → raw.head? ≠ some '\t' →
        found.rules = plain.rules ∧
          ∃ first last, before.definitions = some first ∧
            plain.definitions = some (first ++ last) ∧
            found.definitions = some (first ++ definition :: last)) ∧
      (isOpen → raw.head? = some '\t' → trim raw ≠ [] → (trim raw).head? ≠ some '#' →
        Header.ofLine? (trim raw) = none →
        found.definitions = plain.definitions ∧
          ∃ front rule more rest, before.rules = front ++ [rule] ∧
            plain.rules = front ++ rule.addLines more :: rest ∧
            found.rules = front ++ rule.addLines (String.ofList (trim raw) :: more) :: rest) ∧
      (¬isOpen → (trim raw = [] ∨
          (options.detectDefinitions = true → VariableDefinition.ofLine? (trim raw) = none) ∧
            Header.ofLine? (trim raw) = none) →
        found = plain) := by
  intro raw before plain found isOpen
  have hisOpen : isOpen ↔ _ := endsOpen_iff options.detectDefinitions ("\n".intercalate above)
  have hbefore : before = _ := Scan.parse_eq_toMakefile options ("\n".intercalate above)
  have hplain : plain = _ := parse_intercalate options above below
  have hfound : found = _ := parse_intercalate_line options above below line hline
  generalize Scan.ofLines options.detectDefinitions
    (physicalLines ("\n".intercalate above)) = place at hisOpen hbefore hplain hfound
  obtain ⟨sequel, hsequel⟩ := Scan.exists_sequel_toMakefile options.detectDefinitions place
    (below.flatMap physicalLines)
  refine ⟨fun hc => ?_, fun definition hdetect hf htab => ?_, fun hopen htab hb hc hh => ?_,
    fun hopen hidle => ?_⟩
  · rw [hfound, hplain, Scan.step_of_comment hc]
  · have hlater := hsequel { place with definitions := place.definitions ++ [definition] } rfl
    rw [Scan.step_of_definition hdetect hf htab, hlater] at hfound
    rw [hsequel place rfl] at hplain
    rw [hfound, hplain, hbefore, Scan.definitions_continuedBy, Scan.definitions_continuedBy,
      Scan.rules_continuedBy, Scan.rules_continuedBy, if_pos hdetect, if_pos hdetect]
    refine ⟨rfl, place.definitions, sequel.definitions, ?_, rfl, ?_⟩
    · rw [Scan.toMakefile, if_pos hdetect]
    · simp
  · have hcurrent := hisOpen.mp hopen
    rw [Scan.step_of_command hcurrent htab hb hc hh, hsequel _ Option.isSome_map] at hfound
    rw [hsequel place rfl] at hplain
    obtain ⟨rule, hrule⟩ := Option.isSome_iff_exists.mp hcurrent
    rw [hfound, hplain, hbefore, Scan.definitions_continuedBy, Scan.definitions_continuedBy,
      Scan.rules_continuedBy, Scan.rules_continuedBy, Scan.rules_toMakefile, hrule]
    refine ⟨rfl, place.closed, rule, sequel.recipe, sequel.rules, rfl, rfl, ?_⟩
    simp
  · have hclosed : place.current = none := by
      rw [← Option.not_isSome_iff_eq_none, ← hisOpen]
      exact hopen
    rw [hfound, hplain, Scan.step_of_idle hclosed hidle]

-- A comment, a definition and a command under an open rule, and a stray line below a closed one.
theorem parse_insert_line_each :
    let file (lines : List String) := Makefile.parse ⟨true, false⟩ ("\n".intercalate lines)
    file (["a: b", "\tx"] ++ "\t# c" :: ["\ty"]) = file (["a: b", "\tx"] ++ ["\ty"]) ∧
      (file (["a: b", "\tx"] ++ "Z = 1\r" :: ["\ty"])).rules =
        (file (["a: b", "\tx"] ++ ["\ty"])).rules ∧
      (file (["a: b", "\tx"] ++ "\tZ=1" :: ["\ty"])).definitions =
        (file (["a: b", "\tx"] ++ ["\ty"])).definitions ∧
      file (["a: b", ""] ++ "\tx" :: ["\ty"]) = file (["a: b", ""] ++ ["\ty"]) := by
  intro file
  have hopen : EndsOpen true ("\n".intercalate ["a: b", "\tx"]) :=
    (endsOpen_iff _ _).mpr (by decide)
  have hclosed : ¬EndsOpen true ("\n".intercalate ["a: b", ""]) := by
    rw [endsOpen_iff]
    decide
  refine ⟨?_, ?_, ?_, ?_⟩
  · exact (parse_insert_line ⟨true, false⟩ _ _ "\t# c" (by decide)).1 (by decide)
  · exact ((parse_insert_line ⟨true, false⟩ _ _ "Z = 1\r" (by decide)).2.1 ⟨"Z", "1"⟩ rfl
      (by decide) (by decide)).1
  · exact ((parse_insert_line ⟨true, false⟩ _ _ "\tZ=1" (by decide)).2.2.1 hopen
      (by decide) (by decide) (by decide) (by decide)).1
  · exact (parse_insert_line ⟨true, false⟩ _ _ "\tx" (by decide)).2.2.2 hclosed
      (.inr (by decide))

end Insertion

end MakeCheck
