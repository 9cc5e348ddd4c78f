import Dashboard.Files.Basic
import Dashboard.Proofs.Association

namespace Dashboard.Files

theorem entry?_placing (files : Files) {path : Path} (entry : Entry) (inside : path ≠ [])
    (other : Path) :
    Files.entry? (files.placing path entry) other =
      if other = path then some entry else files.entry? other := by
  cases other with
  | nil => simp [ entry?, Ne.symm inside]
  | cons first rest => simp [ entry?, placing, Association.lookup_put]

/-- Where a file replaces no directory, every step from a directory leads where it led. -/
theorem enter_placing {files : Files} {path here there : Path} {component : String}
    (bytes : List UInt8) (inside : path ≠ []) (free : files.entry? path ≠ some .directory)
    (entered : files.enter here component = .ok there) :
    (files.placing path (.file bytes)).enter here component = .ok there := by
  cases found : files.entry? here with
  | none => simp [enter, found] at entered
  | some entry =>
    cases entry with
    | file content => simp [enter, found] at entered
    | directory =>
      have other : here ≠ path := by
        rintro rfl
        exact free found
      simpa [enter, found, entry?_placing files (.file bytes) inside here, other] using entered

theorem foldlM_enter_placing {files : Files} {path here there : Path} {components : List String}
    (bytes : List UInt8) (inside : path ≠ []) (free : files.entry? path ≠ some .directory)
    (walked : components.foldlM files.enter here = .ok there) :
    components.foldlM (files.placing path (.file bytes)).enter here = .ok there := by
  induction components generalizing here with
  | nil => exact walked
  | cons component rest inductionHypothesis =>
    rw [List.foldlM_cons] at walked ⊢
    cases entered : files.enter here component with
    | error trouble =>
      rw [entered] at walked
      cases walked
    | ok next =>
      rw [entered] at walked
      rw [enter_placing bytes inside free entered]
      exact inductionHypothesis walked

/-- A walk that gets anywhere is one along the components, from the root or the working directory. -/
theorem walk_eq_ok_iff {files : Files} {name : String} {components : List String} {there : Path} :
    files.walk name components = .ok there ↔
      (name.toList.contains '\x00' = false ∧ name ≠ "" ∧ name.utf8ByteSize ≤ longestPath) ∧
        components.foldlM files.enter (files.origin name) = .ok there := by
  cases nul : name.toList.contains '\x00' with
  | true => simp only [walk, nul, if_true, reduceCtorEq, false_and]
  | false =>
    by_cases blank : name = ""
    · simp [walk, blank]
    · by_cases long : name.utf8ByteSize > longestPath
      · simp only [walk, nul, blank, long, Bool.false_eq_true, if_false, if_true, reduceCtorEq,
          Nat.not_le_of_gt long, and_false, false_and]
      · simp only [walk, nul, blank, long, Bool.false_eq_true, if_false, Nat.le_of_not_gt long, ne_eq,
          not_false_eq_true, and_self, true_and]

/-- What does not ask for a directory ends in a name. -/
theorem eq_leading_append {components : List String}
    (asks : asksForDirectory components = false) (present : components ≠ []) :
    ∃ last, components = leading components ++ [last] ∧ last ≠ "" ∧ last ≠ "." ∧ last ≠ ".." := by
  obtain ⟨before, last, rfl⟩ : ∃ before last, components = before ++ [last] :=
    ⟨_, _, (List.dropLast_concat_getLast present).symm⟩
  obtain ⟨⟨notEmpty, notHere⟩, notUp⟩ : (last ≠ "" ∧ last ≠ ".") ∧ last ≠ ".." := by
    simpa [asksForDirectory] using asks
  refine ⟨last, ?_, notEmpty, notHere, notUp⟩
  simp [leading, notEmpty]

/-- A name leads below the directory it is entered from. -/
theorem enter_name {files : Files} {here : Path} {name : String} {path : Path} (notEmpty : name ≠ "")
    (notHere : name ≠ ".") (notUp : name ≠ "..") (entered : files.enter here name = .ok path) :
    path = here ++ [name] := by
  simp only [enter, onward, notEmpty, notHere, notUp, or_self, if_false] at entered
  split at entered
  · cases entered
  · cases entered
  · split at entered
    · cases entered
    · exact (Except.ok.inj entered).symm

/-- A file is written under the path that its name leads to, and not in the place of a directory. -/
theorem write_cases {files after : Files} {name : String} {bytes : List UInt8}
    (written : files.write name bytes = .ok after) :
    ∃ path, path ≠ [] ∧ files.entry? path ≠ some .directory ∧
      asksForDirectory (components name) = false ∧
      files.walk name (components name) = .ok path ∧ after = files.placing path (.file bytes) := by
  have present : components name ≠ [] := by
    simp [components, Text.fields_ne_nil]
  simp only [write] at written
  cases walked : files.walk name (leading (components name)) with
  | error trouble =>
    rw [walked] at written
    cases written
  | ok directory =>
    simp only [walked, bind, Except.bind] at written
    split at written
    · cases written
    · cases written
    · cases asks : asksForDirectory (components name) with
      | true => simp [asks] at written
      | false =>
        obtain ⟨last, split, notEmpty, notHere, notUp⟩ := eq_leading_append asks present
        have ends : (components name).getLast?.getD "" = last := by
          rw [split]
          simp
        simp only [asks, ends, Bool.false_eq_true, if_false] at written
        cases entered : files.enter directory last with
        | error trouble => simp [entered] at written
        | ok path =>
          simp only [entered] at written
          split at written
          · cases written
          · rename_i free
            have below : path ≠ [] := by
              rw [enter_name notEmpty notHere notUp entered]
              exact List.concat_ne_nil _ _
            refine ⟨path, below, free, rfl, ?_, (Except.ok.inj written).symm⟩
            obtain ⟨legal, led⟩ := walk_eq_ok_iff.mp walked
            rw [walk_eq_ok_iff, split, List.foldlM_append, led]
            exact ⟨legal, by simp [bind, Except.bind, entered, pure, Except.pure]⟩

/-- A file that was written is found under its name. -/
theorem find_write {files after : Files} {name : String} {bytes : List UInt8}
    (written : files.write name bytes = .ok after) : after.find name = .ok (.file bytes) := by
  obtain ⟨path, inside, free, asks, walked, rfl⟩ := write_cases written
  have same : (files.placing path (.file bytes)).walk name (components name) = .ok path := by
    obtain ⟨legal, led⟩ := walk_eq_ok_iff.mp walked
    exact walk_eq_ok_iff.mpr ⟨legal, foldlM_enter_placing bytes inside free led⟩
  simp [find, same, bind, Except.bind, entry?_placing files _ inside, asks]

/-- The text of a file that was written is what its bytes say. -/
theorem read_write {files after : Files} {name : String} {bytes : List UInt8} {text : List Char}
    (written : files.write name bytes = .ok after) (decoded : Text.Utf8.decode? bytes = some text) :
    after.read name = .ok (String.ofList text) := by
  simp [read, find_write written, decoded]

end Dashboard.Files
