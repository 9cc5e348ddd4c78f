import Dashboard.CommandLine

/-! Which switches an accepted command line turns on: those that stand in it as arguments of their own,
in their order and each once. Everything else in it is told apart from a switch by its first letters:
an option with a value has another name, and a value of its own does not begin with two hyphens. -/

namespace Dashboard.CommandLine

/-- The argument that turns a switch on. -/
def Switch.argument (switch : Switch) : String := "--" ++ switch.name

/-- The switch that an argument turns on. -/
def Switch.ofArgument? (argument : String) : Option Switch :=
  Switch.all.find? (·.argument == argument)

/-- The letters of an argument that is no switch. -/
inductive IsOther : List Char → Prop where
  | option (parameter : Parameter) (rest : List Char) :
      IsOther ('-' :: '-' :: (parameter.name.toList ++ rest))
  | closing : IsOther ['-', '-']
  | value (letters : List Char) (inside : ∀ rest, letters ≠ '-' :: '-' :: rest) : IsOther letters

namespace Switch

theorem argument_toList (switch : Switch) :
    switch.argument.toList = '-' :: '-' :: switch.name.toList := by
  simp [argument]

theorem argument_of_ofArgument? {argument : String} {switch : Switch}
    (found : ofArgument? argument = some switch) : switch ∈ all ∧ argument = switch.argument := by
  refine ⟨List.mem_of_find?_eq_some found, ?_⟩
  have same := List.find?_some found
  exact (beq_iff_eq.mp same).symm

/-- Looking an argument up is looking the name in it up. -/
theorem ofArgument?_eq_find? {argument : String} {name : String}
    (letters : argument.toList = '-' :: '-' :: name.toList) :
    ofArgument? argument = all.find? (·.name == name) := by
  refine congrArg (fun test => all.find? test) (funext fun switch => ?_)
  rw [Bool.eq_iff_iff, beq_iff_eq, beq_iff_eq, ← String.toList_inj, argument_toList, letters,
    List.cons_inj_right, List.cons_inj_right, String.toList_inj]

theorem ofArgument?_of_isOther {argument : String} (other : IsOther argument.toList) :
    ofArgument? argument = none := by
  cases found : ofArgument? argument with
  | none => rfl
  | some switch =>
    obtain ⟨present, rfl⟩ := argument_of_ofArgument? found
    rw [argument_toList] at other
    exfalso
    generalize letters : '-' :: '-' :: switch.name.toList = text at other
    cases other with
    | option parameter rest =>
      revert letters
      simp only [all, debugKeys, List.map_cons, List.map_nil, List.cons_append, List.nil_append,
        List.mem_cons, List.not_mem_nil, or_false] at present
      rcases present with rfl | rfl | rfl | rfl | rfl | rfl | rfl | rfl | rfl | rfl <;>
        cases parameter <;> simp [name, Parameter.name]
    | closing =>
      revert letters
      cases switch <;> simp [name]
    | value _ inside => exact inside _ letters.symm

end Switch

theorem give_switches {line next : CommandLine} {parameter : Parameter} {text : String}
    (accepted : line.give parameter text = .ok next) : next.switches = line.switches := by
  unfold give at accepted
  split at accepted
  · cases accepted
  · cases parameter with
    | config | host =>
      cases accepted
      rfl
    | port | requestsPerMinute =>
      simp only at accepted
      split at accepted
      · cases accepted
        rfl
      · cases accepted

theorem settle_switches {reading : Reading} {line : CommandLine} (accepted : reading.settle = .ok line) :
    line.switches = reading.line.switches := by
  unfold Reading.settle at accepted
  split at accepted
  · cases accepted
    rfl
  · cases accepted
  · exact give_switches accepted

theorem not_ask {reading next : Reading} {request : Refusal} :
    reading.ask request ≠ .ok next := by
  unfold Reading.ask
  split <;> simp

/-- The letters of an option are its name and, behind a sign of equality, its value. -/
theorem splitOption_spec (letters : List Char) :
    letters = (splitOption letters).1.toList ++
      ((splitOption letters).2.elim [] fun value => '=' :: value.toList) := by
  have parts := List.takeWhile_append_dropWhile (p := (· ≠ '=')) (l := letters)
  unfold splitOption
  split
  · rename_i nothing
    rw [nothing] at parts
    simpa using parts.symm
  · rename_i sign value behind
    have isSign : sign = '=' := by
      have first := List.head?_dropWhile_not (· ≠ '=') letters
      rw [behind] at first
      simpa using first
    rw [behind, isSign] at parts
    simpa using parts.symm

/-- A long option is a switch, with nothing attached to it, or it is an option with a value. -/
theorem long_cases {reading next : Reading} {letters : List Char}
    (accepted : reading.long letters = .ok next) :
    (∃ switch, letters = switch.name.toList ∧ Switch.all.find? (·.name == switch.name) = some switch ∧
        switch ∉ reading.line.switches ∧
        next.line.switches = reading.line.switches ++ [switch]) ∨
      (∃ (parameter : Parameter) (rest : List Char), letters = parameter.name.toList ++ rest) ∧
        next.line.switches = reading.line.switches := by
  have parts := splitOption_spec letters
  unfold Reading.long at accepted
  generalize splitOption letters = split at accepted parts
  obtain ⟨name, value⟩ := split
  simp only at accepted parts
  split at accepted
  · rename_i parameter found
    right
    have same := List.find?_some found
    have named : parameter.name = name := beq_iff_eq.mp same
    refine ⟨⟨parameter, _, named ▸ parts⟩, ?_⟩
    cases settled : reading.settle with
    | error refusal => simp [settled, bind, Except.bind] at accepted
    | ok line =>
      rw [← settle_switches settled]
      cases value with
      | none =>
        simp only [settled, bind, Except.bind, pure, Except.pure, Except.ok.injEq] at accepted
        rw [← accepted]
      | some value =>
        simp only [settled, bind, Except.bind] at accepted
        split at accepted
        · cases accepted
        · rename_i given gives
          cases accepted
          exact give_switches gives
  · split at accepted
    · rename_i switch found
      have same := List.find?_some found
      have named : switch.name = name := beq_iff_eq.mp same
      split at accepted
      · cases accepted
      · rename_i alone
        -- a switch takes no value, so the whole of the argument is its name
        have nothing : value = none := by simpa using alone
        left
        refine ⟨switch, by simpa [nothing, named] using parts, by rw [named]; exact found, ?_⟩
        cases settled : reading.settle with
        | error refusal => simp [settled, bind, Except.bind] at accepted
        | ok line =>
          rw [← settle_switches settled]
          simp only [settled, bind, Except.bind, turnOn] at accepted
          split at accepted
          · cases accepted
          · rename_i turned turns
            split at turns
            · cases turns
            · rename_i absent
              cases turns
              cases accepted
              exact ⟨by simpa using absent, rfl⟩
    · split at accepted
      · split at accepted
        · cases accepted
        · exact absurd accepted not_ask
      · cases accepted

/-- Everything that an accepted argument can be: a switch that was not on, which is on from then, or
something else, which leaves the switches as they are. -/
theorem argument_cases {reading next : Reading} {text : String}
    (accepted : reading.argument text = .ok next) :
    (∃ switch, Switch.ofArgument? text = some switch ∧ switch ∉ reading.line.switches ∧
        next.line.switches = reading.line.switches ++ [switch]) ∨
      IsOther text.toList ∧ next.line.switches = reading.line.switches := by
  unfold Reading.argument at accepted
  split at accepted
  · cases accepted
  · split at accepted
    · rename_i letters
      right
      cases accepted
      exact ⟨letters ▸ .closing, rfl⟩
    · rename_i name _ letters
      rcases long_cases accepted with ⟨switch, named, found, absent, turned⟩ |
        ⟨⟨parameter, rest, named⟩, same⟩
      · left
        refine ⟨switch, ?_, absent, turned⟩
        rw [Switch.ofArgument?_eq_find? (letters.trans (by rw [named])), found]
      · right
        refine ⟨?_, same⟩
        rw [letters, named]
        exact .option parameter rest
    · split at accepted
      · exact absurd accepted not_ask
      · split at accepted
        · exact absurd accepted not_ask
        · cases accepted
    · rename_i noLong _
      split at accepted
      · right
        cases accepted
        refine ⟨.value _ fun rest letters => ?_, rfl⟩
        exact noLong _ letters
      · cases accepted

/-- What is accepted of a list of arguments: each is a switch or something else, and the switches come
to those that are on already, none of them twice. -/
theorem foldlM_argument {arguments : List String} {reading next : Reading}
    (accepted : arguments.foldlM Reading.argument reading = .ok next)
    (once : reading.line.switches.Nodup) :
    next.line.switches = reading.line.switches ++ arguments.filterMap Switch.ofArgument? ∧
      next.line.switches.Nodup ∧
      ∀ argument ∈ arguments,
        (Switch.ofArgument? argument).isSome = true ∨ IsOther argument.toList := by
  induction arguments generalizing reading with
  | nil =>
    cases accepted
    exact ⟨(List.append_nil _).symm, once, nofun⟩
  | cons argument rest inductionHypothesis =>
    rw [List.foldlM_cons] at accepted
    cases first : reading.argument argument with
    | error refusal => simp [first, bind, Except.bind] at accepted
    | ok middle =>
      simp only [first, bind, Except.bind] at accepted
      rcases argument_cases first with ⟨switch, found, absent, turned⟩ | ⟨other, same⟩
      · have onceMore : middle.line.switches.Nodup := by
          rw [turned]
          refine List.nodup_append.mpr ⟨once, by simp, ?_⟩
          rintro present isOn _ (last : _ ∈ [switch]) rfl
          exact absent (List.mem_singleton.mp last ▸ isOn)
        obtain ⟨switches, nodup, kinds⟩ := inductionHypothesis accepted onceMore
        refine ⟨?_, nodup, ?_⟩
        · rw [switches, turned, List.filterMap_cons_some found, List.append_assoc,
            List.singleton_append]
        · intro text present
          rcases List.mem_cons.mp present with rfl | later
          · exact Or.inl (by rw [found]; rfl)
          · exact kinds text later
      · obtain ⟨switches, nodup, kinds⟩ := inductionHypothesis accepted (same ▸ once)
        refine ⟨?_, nodup, ?_⟩
        · rw [switches, same, List.filterMap_cons_none (Switch.ofArgument?_of_isOther other)]
        · intro text present
          rcases List.mem_cons.mp present with rfl | later
          · exact Or.inr other
          · exact kinds text later

/-- The switches of an accepted command line are its switch arguments in their order, each once, and no
other argument of it could be taken for one. -/
theorem parse_switches {arguments : List String} {line : CommandLine}
    (accepted : parse arguments = .ok line) :
    line.switches = (arguments.drop 1).filterMap Switch.ofArgument? ∧ line.switches.Nodup ∧
      ∀ argument ∈ arguments.drop 1,
        (Switch.ofArgument? argument).isSome = true ∨ IsOther argument.toList := by
  unfold parse at accepted
  cases read : (arguments.drop 1).foldlM Reading.argument ⟨empty, none, false⟩ with
  | error refusal => simp only [read, bind, Except.bind, reduceCtorEq] at accepted
  | ok reading =>
    simp only [read, bind, Except.bind] at accepted
    obtain ⟨switches, once, kinds⟩ := foldlM_argument read List.nodup_nil
    rw [settle_switches accepted]
    exact ⟨switches, once, kinds⟩

theorem Switch.map_argument_sublist (arguments : List String) :
    ((arguments.filterMap Switch.ofArgument?).map Switch.argument).Sublist arguments := by
  induction arguments with
  | nil => exact .slnil
  | cons argument rest inductionHypothesis =>
    cases found : Switch.ofArgument? argument with
    | none =>
      rw [List.filterMap_cons_none found]
      exact inductionHypothesis.cons argument
    | some switch =>
      obtain ⟨-, rfl⟩ := Switch.argument_of_ofArgument? found
      rw [List.filterMap_cons_some found]
      exact inductionHypothesis.cons_cons _

end Dashboard.CommandLine
