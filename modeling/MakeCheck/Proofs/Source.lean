import MakeCheck.Proofs.WellFormed

namespace MakeCheck

open Text

def VariableDefinition.sourceLine (definition : VariableDefinition) : String :=
  definition.name ++ " = " ++ definition.value

def Rule.headerLine (rule : Rule) : String :=
  rule.targets.text ++ ": " ++ " ".intercalate rule.prerequisites

-- The header, the recipe with a tab before each line, and a blank line that closes the rule.
def Rule.sourceLines (rule : Rule) : List String :=
  rule.headerLine :: (rule.recipe.map ("\t" ++ ·) ++ [""])

def Makefile.sourceLines (makefile : Makefile) : List String :=
  (makefile.definitions.getD []).map VariableDefinition.sourceLine ++
    makefile.rules.flatMap Rule.sourceLines

-- The file written out again. Where no definitions were looked for, none are written.
def Makefile.source (makefile : Makefile) : String :=
  String.join (makefile.sourceLines.map (· ++ "\n"))

-- A line that holds no line feed is cut off where it ends.
theorem splitOn_join {lines : List String} (hlines : ∀ line ∈ lines, '\n' ∉ line.toList) :
    (String.join (lines.map (· ++ "\n"))).toList.splitOn '\n' =
      lines.map String.toList ++ [[]] := by
  induction lines with
  | nil => rfl
  | cons line lines ih =>
      obtain ⟨hfeed, hrest⟩ := List.forall_mem_cons.mp hlines
      have hend : "\n".toList = ['\n'] := rfl
      rw [List.map_cons, String.join_cons, String.toList_append, String.toList_append, hend,
        List.append_assoc, List.singleton_append, List.splitOn_append_cons_self,
        List.splitOn_eq_singleton hfeed, ih hrest]
      rfl

theorem physicalLines_join {lines : List String}
    (hlines : ∀ line ∈ lines, '\n' ∉ line.toList ∧ '\r' ∉ line.toList) :
    physicalLines (String.join (lines.map (· ++ "\n"))) = lines.map String.toList ++ [[]] := by
  rw [physicalLines, splitOn_join fun line hline => (hlines line hline).1, List.map_append,
    List.map_map]
  congr 1
  refine List.map_congr_left fun line hline => List.filter_eq_self.mpr fun c hc => ?_
  rw [bne_iff_ne]
  rintro rfl
  exact (hlines line hline).2 hc

section Names

theorem IsName.isHeaderChar {name : String} (hname : IsName name) :
    ∀ c ∈ name.toList, Header.isHeaderChar c = true :=
  fun c hc => Header.isHeaderChar_iff.mpr (.inl (hname c hc).1)

theorem IsName.trimmed {name : String} (hname : IsName name) : Trimmed name.toList :=
  trimmed_of_forall fun c hc => (hname c hc).1.not_isBlank

theorem IsName.space_not_mem {name : String} (hname : IsName name) : ' ' ∉ name.toList :=
  fun h => (hname ' ' h).2 rfl

-- The names as one text with a space between two of them.
def joined (names : List String) : List Char :=
  [' '].intercalate (names.map String.toList)

theorem joined_cons_cons (name next : String) (names : List String) :
    joined (name :: next :: names) = name.toList ++ ' ' :: joined (next :: names) := by
  simp [joined, List.intercalate_cons_cons]

theorem toList_intercalate_space (names : List String) :
    (" ".intercalate names).toList = joined names := by
  rw [String.toList_intercalate, joined]
  rfl

theorem isHeaderChar_of_mem_joined {names : List String} (hnames : ∀ name ∈ names, IsName name) :
    ∀ c ∈ joined names, Header.isHeaderChar c = true := by
  induction names with
  | nil => simp [joined]
  | cons name names ih =>
      obtain ⟨hname, hrest⟩ := List.forall_mem_cons.mp hnames
      cases names with
      | nil => simpa [joined] using hname.isHeaderChar
      | cons next names =>
          rw [joined_cons_cons]
          intro c hc
          rcases List.mem_append.mp hc with hfirst | hlater
          · exact hname.isHeaderChar c hfirst
          · rcases List.mem_cons.mp hlater with rfl | hlater
            · exact Header.isHeaderChar_iff.mpr (.inr rfl)
            · exact ih hrest c hlater

theorem space_mem_joined {names : List String} (hlength : 2 ≤ names.length) :
    ' ' ∈ joined names := by
  cases names with
  | nil => simp at hlength
  | cons name names =>
      cases names with
      | nil => simp at hlength
      | cons next names => simp [joined_cons_cons]

theorem splitOn_joined {names : List String} (hnames : ∀ name ∈ names, ' ' ∉ name.toList)
    (hne : names ≠ []) : (joined names).splitOn ' ' = names.map String.toList := by
  refine List.splitOn_intercalate ' ' (fun text htext => ?_) (by simpa using hne)
  obtain ⟨name, hname, rfl⟩ := List.mem_map.mp htext
  exact hnames name hname

theorem joined_ne_nil {name : String} (names : List String) (hname : name ≠ "") :
    joined (name :: names) ≠ [] := by
  cases names with
  | nil => simpa [joined] using hname
  | cons next names => simp [joined_cons_cons]

theorem trimmed_joined {names : List String} (hnames : ∀ name ∈ names, name ≠ "" ∧ IsName name) :
    Trimmed (joined names) := by
  induction names with
  | nil => simpa [joined] using trimmed_nil
  | cons name names ih =>
      obtain ⟨⟨hne, hname⟩, hrest⟩ := List.forall_mem_cons.mp hnames
      cases names with
      | nil => simpa [joined] using hname.trimmed
      | cons next names =>
          rw [joined_cons_cons]
          exact hname.trimmed.append_cons (ih hrest) (by simpa using hne)
            (joined_ne_nil names (hrest next List.mem_cons_self).1) ' '

end Names

section Targets

variable {targets : Targets}

theorem Targets.WellFormed.forall_isName (htargets : targets.WellFormed) :
    ∀ name ∈ targets.names, IsName name := by
  cases targets with
  | single name => simpa [names] using htargets.2
  | multiple names => exact htargets.2.2

theorem Targets.toList_text (targets : Targets) : targets.text.toList = joined targets.names := by
  cases targets with
  | single name => simp [text, names, joined]
  | multiple names => exact toList_intercalate_space names

theorem Targets.WellFormed.isHeaderChar_text (htargets : targets.WellFormed) :
    ∀ c ∈ targets.text.toList, Header.isHeaderChar c = true := by
  rw [targets.toList_text]
  exact isHeaderChar_of_mem_joined htargets.forall_isName

-- The first name is there, so no blank comes before it.
theorem Targets.WellFormed.exists_text_eq_cons (htargets : targets.WellFormed) :
    ∃ c rest, targets.text.toList = c :: rest ∧ isBlank c = false := by
  have hfirst : ∃ first others, targets.names = first :: others ∧ first ≠ "" ∧ IsName first := by
    cases targets with
    | single name => exact ⟨name, [], rfl, htargets.1, htargets.2⟩
    | multiple names =>
        obtain ⟨_, ⟨first, hhead, hne⟩, hnames⟩ := htargets
        cases names with
        | nil => simp at hhead
        | cons name others =>
            obtain rfl : name = first := by simpa using hhead
            exact ⟨name, others, rfl, hne, hnames name List.mem_cons_self⟩
  obtain ⟨first, others, hnames, hne, hfirst⟩ := hfirst
  obtain ⟨c, rest, hchars⟩ := List.exists_cons_of_ne_nil (l := first.toList) (by simpa using hne)
  have hc : isBlank c = false := (hfirst c (by simp [hchars])).1.not_isBlank
  rw [targets.toList_text, hnames]
  cases others with
  | nil => exact ⟨c, rest, by simp [joined, hchars], hc⟩
  | cons next others =>
      exact ⟨c, rest ++ ' ' :: joined (next :: others), by simp [joined_cons_cons, hchars], hc⟩

-- A list of names is read as it was joined, unless there is a space in a name.
theorem Targets.ofText_joined {names : List String} (hlength : 2 ≤ names.length)
    (hnames : ∀ name ∈ names, ' ' ∉ name.toList) : ofText (joined names) = .multiple names := by
  have hofList : (names.map String.toList).map String.ofList = names := by
    simp [Function.comp_def]
  have hne : names ≠ [] := List.length_pos_iff.mp (by omega)
  rw [ofText_of_mem (space_mem_joined hlength), splitOn_joined hnames hne, hofList]

-- One name is written without a space and a list of names with at least one.
theorem Targets.WellFormed.ofText_text (htargets : targets.WellFormed) :
    Targets.ofText targets.text.toList = targets := by
  cases targets with
  | single name =>
      rw [text, ofText_of_not_mem htargets.2.space_not_mem, String.ofList_toList]
  | multiple names =>
      obtain ⟨hlength, _, hnames⟩ := htargets
      rw [Targets.toList_text, Targets.names,
        ofText_joined hlength fun name hname => (hnames name hname).space_not_mem]

end Targets

section Headers

theorem trim_trimEnd_cons {b : Char} {s : List Char} (hb : isBlank b = true) (hs : Trimmed s) :
    trim (trimEnd (b :: s)) = s := by
  by_cases hne : s = []
  · subst hne
    have hend : trimEnd [b] = [] := by simp [trimEnd, hb]
    rw [hend]
    rfl
  · rw [trimEnd_cons_of_trimmed hs hne, trim_cons_of_isBlank s hb, trim_of_trimmed hs]

theorem head?_trimEnd_space_cons (s : List Char) :
    ∀ c ∈ (trimEnd (' ' :: s)).head?, c = ' ' := by
  intro c hc
  have hne : trimEnd (' ' :: s) ≠ [] := by
    intro h
    simp [h] at hc
  rw [head?_trimEnd hne] at hc
  simpa using hc.symm

theorem Header.prerequisitesOf_joined {names : List String}
    (hnames : ∀ name ∈ names, name ≠ "" ∧ IsName name) :
    prerequisitesOf (trimEnd (' ' :: joined names)) = names := by
  cases names with
  | nil => rfl
  | cons name names =>
      have hnames' : ∀ other ∈ name :: names, IsName other := fun other h => (hnames other h).2
      have hne := joined_ne_nil names (hnames name List.mem_cons_self).1
      have hspan : (' ' :: joined (name :: names)).takeWhile isHeaderChar =
          ' ' :: joined (name :: names) := by
        rw [List.takeWhile_eq_self_iff]
        exact List.forall_mem_cons.mpr ⟨by decide, isHeaderChar_of_mem_joined hnames'⟩
      have hkeep : ∀ text ∈ (name :: names).map String.toList, (!text.isEmpty) = true := by
        intro text htext
        obtain ⟨other, hother, rfl⟩ := List.mem_map.mp htext
        simpa using (hnames other hother).1
      rw [trimEnd_cons_of_trimmed (trimmed_joined hnames) hne, prerequisitesOf, hspan,
        List.splitOn_cons_eq_if_modifyHead, if_pos (by decide),
        splitOn_joined (fun other h => (hnames' other h).space_not_mem) (List.cons_ne_nil _ _),
        List.filter_cons_of_neg (by simp), List.filter_eq_self.mpr hkeep]
      simp [Function.comp_def]

end Headers

end MakeCheck
