import MakeCheck.Makefile.Scan
import MakeCheck.Proofs.Line

namespace MakeCheck

open Text

namespace Scan

-- What a scan has recovered if the text ends here.
def toMakefile (detect : Bool) (scan : Scan) : Makefile where
  origin := .memory
  rules := scan.close.closed
  definitions := if detect then some scan.definitions else none

theorem parse_eq_toMakefile (options : ParseOptions) (text : String) :
    Makefile.parse options text =
      (ofLines options.detectDefinitions (physicalLines text)).toMakefile
        options.detectDefinitions :=
  rfl

-- The same scan behind what was recovered before it began.
def after (scan : Scan) (closed : List Rule) (definitions : List VariableDefinition) : Scan :=
  { scan with
    closed := closed ++ scan.closed
    definitions := definitions ++ scan.definitions }

section After

variable (detect : Bool) (scan : Scan) (closed : List Rule) (definitions : List VariableDefinition)

theorem lineOf_after (raw : List Char) :
    (scan.after closed definitions).lineOf detect raw = scan.lineOf detect raw :=
  rfl

theorem close_after :
    (scan.after closed definitions).close = scan.close.after closed definitions := by
  simp [after, close]

-- No kind of line looks at what is closed already.
theorem add_after (line : Line) :
    (scan.after closed definitions).add line = (scan.add line).after closed definitions := by
  cases line with
  | blank => exact close_after scan closed definitions
  | comment => rfl
  | definition definition => simp [after, add]
  | header header => simp [after, add, close]
  | other text => rfl

theorem step_after (raw : List Char) :
    (scan.after closed definitions).step detect raw =
      (scan.step detect raw).after closed definitions := by
  rw [step, lineOf_after, add_after, ← step]

theorem foldl_step_after (lines : List (List Char)) :
    lines.foldl (step detect) (scan.after closed definitions) =
      (lines.foldl (step detect) scan).after closed definitions := by
  induction lines generalizing scan with
  | nil => rfl
  | cons raw lines ih => rw [List.foldl_cons, List.foldl_cons, step_after, ih]

end After

-- Where no rule is open, a scan goes on as a new one does.
theorem eq_start_after (scan : Scan) (hclosed : scan.current = none) :
    scan = start.after scan.closed scan.definitions := by
  obtain ⟨closed, current, definitions⟩ := scan
  obtain rfl := hclosed
  simp [start, after]

theorem close_close (scan : Scan) : scan.close.close = scan.close := by
  simp [close]

theorem step_of_trim_eq_nil (detect : Bool) (scan : Scan) {raw : List Char}
    (hraw : trim raw = []) : scan.step detect raw = scan.close := by
  have hline : scan.lineOf detect raw = .blank := Line.kind_iff.mp (.blank hraw)
  rw [step, hline, add]

theorem foldl_step_of_blank (detect : Bool) (scan : Scan) {lines : List (List Char)}
    (hne : lines ≠ []) (hlines : ∀ raw ∈ lines, trim raw = []) :
    lines.foldl (step detect) scan = scan.close := by
  induction lines generalizing scan with
  | nil => exact absurd rfl hne
  | cons raw lines ih =>
      obtain ⟨hraw, hrest⟩ := List.forall_mem_cons.mp hlines
      rw [List.foldl_cons, step_of_trim_eq_nil detect scan hraw]
      by_cases hnil : lines = []
      · rw [hnil, List.foldl_nil]
      · rw [ih scan.close hnil hrest, close_close]

-- A header of a file of its own is one under an open rule too, where no line is a definition
-- that would not be one outside.
theorem lineOf_eq_header (detect : Bool) (scan : Scan) {raw : List Char} {header : Header}
    (hstart : start.lineOf detect raw = .header header) :
    scan.lineOf detect raw = .header header := by
  have hkind := Line.kind_iff.mpr hstart
  cases hkind with
  | header found hb hc hd hf =>
      refine Line.kind_iff.mp (.header header hb hc (fun hdetect => hd ?_) hf)
      simp only [Bool.and_eq_true] at hdetect
      simp [inRecipe, start, hdetect.1]

theorem step_of_header (detect : Bool) (scan : Scan) {raw : List Char} {header : Header}
    (hstart : start.lineOf detect raw = .header header) :
    scan.step detect raw =
      (start.step detect raw).after scan.close.closed scan.definitions := by
  rw [step, step, lineOf_eq_header detect scan hstart, hstart]
  simp [add, after, start, close]

end Scan

-- What two files say one after the other.
def Makefile.followedBy (makefile other : Makefile) : Makefile where
  origin := makefile.origin
  rules := makefile.rules ++ other.rules
  definitions :=
    match makefile.definitions, other.definitions with
    | some above, some below => some (above ++ below)
    | _, _ => none

namespace Scan

theorem toMakefile_after (detect : Bool) (scan above : Scan) :
    (scan.after above.close.closed above.definitions).toMakefile detect =
      (above.toMakefile detect).followedBy (scan.toMakefile detect) := by
  unfold toMakefile Makefile.followedBy
  rw [close_after]
  cases detect <;> rfl

-- A scan that is where a new one would be, save for what it has behind it, ends like the new one.
theorem toMakefile_foldl (detect : Bool) (scan above : Scan) (lines : List (List Char)) :
    (lines.foldl (step detect)
        (scan.after above.close.closed above.definitions)).toMakefile detect =
      (above.toMakefile detect).followedBy
        ((lines.foldl (step detect) scan).toMakefile detect) := by
  rw [foldl_step_after, toMakefile_after]

end Scan

theorem trim_of_mem_physicalLines_blank {gap : String}
    (hgap : ∀ c ∈ gap.toList, isBlank c = true) : ∀ raw ∈ physicalLines gap, trim raw = [] :=
  fun _ hraw => trim_eq_nil_of_forall fun c hc => hgap c (mem_of_mem_physicalLines hraw c hc).1

theorem parse_append_blank (options : ParseOptions) (above below gap : String)
    (hgap : ∀ c ∈ gap.toList, isBlank c = true) :
    Makefile.parse options (above ++ "\n" ++ gap ++ "\n" ++ below) =
      (Makefile.parse options above).followedBy (Makefile.parse options below) := by
  have hclosed (scan : Scan) : scan.close = Scan.start.after scan.close.closed scan.definitions :=
    Scan.eq_start_after scan.close rfl
  rw [Scan.parse_eq_toMakefile, Scan.parse_eq_toMakefile, Scan.parse_eq_toMakefile,
    physicalLines_append, physicalLines_append, Scan.ofLines, List.foldl_append, List.foldl_append,
    Scan.foldl_step_of_blank _ _ (physicalLines_ne_nil gap) (trim_of_mem_physicalLines_blank hgap),
    hclosed, Scan.toMakefile_foldl]
  rfl

theorem parse_append_header (options : ParseOptions) (above below : String) (header : Header)
    (hheader : (physicalLines below).head?.map (Scan.start.lineOf options.detectDefinitions) =
      some (.header header)) :
    Makefile.parse options (above ++ "\n" ++ below) =
      (Makefile.parse options above).followedBy (Makefile.parse options below) := by
  rw [Scan.parse_eq_toMakefile, Scan.parse_eq_toMakefile, Scan.parse_eq_toMakefile,
    physicalLines_append, Scan.ofLines, List.foldl_append]
  obtain ⟨raw, rest, hlines⟩ := List.exists_cons_of_ne_nil (physicalLines_ne_nil below)
  rw [hlines, List.head?_cons, Option.map_some, Option.some.injEq] at hheader
  rw [hlines, List.foldl_cons, Scan.step_of_header _ _ hheader, Scan.toMakefile_foldl]
  rfl

-- Nothing of a rule is carried over a blank line, nor over a header.
theorem parse_append_boundary (options : ParseOptions) (above below : String) :
    (∀ gap : String, (∀ c ∈ gap.toList, isBlank c = true) →
      Makefile.parse options (above ++ "\n" ++ gap ++ "\n" ++ below) =
        (Makefile.parse options above).followedBy (Makefile.parse options below)) ∧
    ∀ header : Header,
      (physicalLines below).head?.map (Scan.start.lineOf options.detectDefinitions) =
        some (.header header) →
      Makefile.parse options (above ++ "\n" ++ below) =
        (Makefile.parse options above).followedBy (Makefile.parse options below) :=
  ⟨parse_append_blank options above below, parse_append_header options above below⟩

-- A tab does not make a recipe line of a header.
theorem parse_append_boundary_tab :
    (∀ c ∈ " \r".toList, isBlank c = true) ∧
      (physicalLines "\tb: c\n\tls").head?.map (Scan.start.lineOf true) =
        some (.header ⟨.single "b", ["c"]⟩) ∧
      Makefile.parse ⟨true, false⟩ ("a:\n\techo" ++ "\n" ++ " \r" ++ "\n" ++ "\tb: c\n\tls") =
        (Makefile.parse ⟨true, false⟩ "a:\n\techo").followedBy
          (Makefile.parse ⟨true, false⟩ "\tb: c\n\tls") ∧
      Makefile.parse ⟨true, false⟩ ("a:\n\techo" ++ "\n" ++ "\tb: c\n\tls") =
        (Makefile.parse ⟨true, false⟩ "a:\n\techo").followedBy
          (Makefile.parse ⟨true, false⟩ "\tb: c\n\tls") := by
  have hgap : ∀ c ∈ " \r".toList, isBlank c = true := by simp [isBlank, blanks]
  have hheader : (physicalLines "\tb: c\n\tls").head?.map (Scan.start.lineOf true) =
      some (.header ⟨.single "b", ["c"]⟩) := by decide
  have hboundary := parse_append_boundary ⟨true, false⟩ "a:\n\techo" "\tb: c\n\tls"
  exact ⟨hgap, hheader, hboundary.1 " \r" hgap, hboundary.2 _ hheader⟩

end MakeCheck
