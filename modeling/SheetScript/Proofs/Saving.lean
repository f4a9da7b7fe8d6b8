import SheetScript.CommandLine.Run
import SheetScript.Proofs.Extraction
import SheetScript.Proofs.Report

namespace SheetScript

def Engine.GivesNothing (engine : Engine) (script cell : String) : Prop :=
  (∃ reason, engine.evaluate script cell = .error reason) ∨
    engine.evaluate script cell = .ok .blank

def Sheet.FirstFormulaFails (s : Sheet) (engine : Engine) (script : String) : Prop :=
  ∃ q cell, s.positions.find? (·.value.formula?.isSome) = some q ∧ q.name = .ok cell ∧
    engine.GivesNothing script cell

theorem Sheet.firstFormulaFails_iff {s : Sheet} {script : Script} (h : s.toScript = .ok script)
    {engine : Engine} {text : String} : s.FirstFormulaFails engine text ↔
      ∃ cell ∈ script.formulas.keys.head?, engine.GivesNothing text cell := by
  obtain ⟨p, hp⟩ := Program.exists_ofSheet h
  have first : script.formulas.keys.head?.map .ok =
      (s.positions.find? (·.value.formula?.isSome)).map Position.name := by
    rw [Program.formulas_of_toScript hp h, ← List.head?_map, Program.map_keys_formulas hp,
      List.head?_map, List.head?_filter]
  unfold FirstFormulaFails
  cases found : s.positions.find? (·.value.formula?.isSome) with
  | none =>
    rw [found, Option.map_none, Option.map_eq_none_iff] at first
    simp [first]
  | some q =>
    rw [found, Option.map_some] at first
    obtain ⟨cell, head, named⟩ := Option.map_eq_some_iff.1 first
    simp [head, ← named]

namespace CommandLine

def IsOperand (argument : String) : Prop := understand argument = .ok (.operand argument)

theorem isOperand_of_head? {argument : String} (h : argument.toList.head? ≠ some '-') :
    IsOperand argument := by
  unfold IsOperand understand
  split
  · rename_i c rest text
    simp [text] at h
  · rfl

theorem IsOperand.ne_terminator {argument : String} (h : IsOperand argument) :
    argument ≠ "--" := by
  rintro rfl
  have ambiguous : understand "--" = .error (.ambiguous "--" Flag.all) := by
    with_unfolding_all rfl
  cases ambiguous.symm.trans h

theorem request_operand {file : String} (h : IsOperand file) :
    request [file] = .run { file := some file } := by
  have words : understandAll [file] = .ok [.operand file] := by
    simp only [understandAll, h.ne_terminator, if_false]
    rw [h]
    rfl
  rw [request, words]
  with_unfolding_all rfl

theorem request_output {file path : String} (h : IsOperand file) (h' : IsOperand path) :
    request [file, "-o", path] = .run { file := some file, output := some path } := by
  have flag : understand "-o" = .ok (.flag .output true none) := by with_unfolding_all rfl
  have words : understandAll [file, "-o", path] =
      .ok [.operand file, .flag .output true none, .operand path] := by
    simp only [understandAll, h.ne_terminator, h'.ne_terminator, if_false]
    rw [h, h', flag]
    rfl
  rw [request, words]
  with_unfolding_all rfl

theorem task_output (file : String) {path : String} (ne : path ≠ "") :
    ({ file := some file, output := some path } : Settings).task = .save path := by
  have kept : given (some path) = some path := by simp [given, ne]
  simp only [Settings.task, kept]
  rfl

structure PlainName (path : String) : Prop where
  nonempty : path ≠ ""
  short : path.utf8ByteSize ≤ 255
  not_here : path ≠ "."
  not_above : path ≠ ".."
  no_slash : '/' ∉ path.toList
  no_zero : '\x00' ∉ path.toList
  no_minus : path.toList.head? ≠ some '-'

theorem cutAt_of_not_mem {mark : Char} {cs : List Char} (h : mark ∉ cs) :
    Text.cutAt mark cs = [cs] := by
  induction cs with
  | nil => rfl
  | cons c cs ih =>
    obtain ⟨here, later⟩ := List.ne_and_not_mem_of_not_mem_cons h
    rw [Text.cutAt, if_neg here.symm, ih later]

theorem PlainName.place_eq {path : String} (h : PlainName path) :
    place path = .ok (.file path) := by
  have relative : path.toList.head? ≠ some '/' := fun first =>
    h.no_slash (List.mem_of_mem_head? first)
  have inName : ¬ maxName < path.utf8ByteSize := not_lt.2 h.short
  have inPath : ¬ maxPath < path.utf8ByteSize := not_lt.2 (h.short.trans (by decide))
  have differs {name : String} (ne : path ≠ name) : path.toList ≠ name.toList :=
    mt String.toList_inj.1 ne
  have named : ¬ (path.toList = [] ∨ path.toList = ['.']) :=
    not_or.2 ⟨differs h.nonempty, differs h.not_here⟩
  have below : path.toList ≠ ['.', '.'] := differs h.not_above
  -- The known directories are at most two names deep, and the file is three.
  have unknown : workingDirectory ++ [path] ∉ directories := by
    have shallow : ∀ d ∈ directories, d.length ≤ 2 := by decide
    exact fun known => absurd (shallow _ known) (by simp [workingDirectory])
  rw [place, if_neg inPath, if_neg relative, cutAt_of_not_mem h.no_slash]
  simp only [follow, String.ofList_toList]
  rw [if_neg named, if_neg below, if_neg inName, if_neg unknown, if_pos trivial, target,
    if_pos rfl]

theorem PlainName.save_eq {path : String} (h : PlainName path) (text : String)
    (events : List Event) : save path text events =
      { events := events ++ [.line (savedLine path)], files := [(path, text)] } := by
  rw [save, if_neg h.no_zero, h.place_eq]

open Report (Prints)

theorem prints_then {α : Type} (e : Event) (a : α) :
    Prints (do Report.print e; return a) a [e] :=
  (Prints.print e).bind_pure fun _ => a

theorem exists_prints_compute (engine : Engine) (script cell : String) :
    ∃ value events, Prints (Report.compute engine script cell) value events ∧
      (value.isBlank = true ↔ engine.GivesNothing script cell) := by
  cases computed : engine.evaluate script cell with
  | error reason =>
    rw [Report.compute, computed]
    exact ⟨.blank, _, prints_then _ _, fun _ => .inl ⟨reason, computed⟩, fun _ => rfl⟩
  | ok value =>
    refine ⟨value, [], Report.prints_compute computed, ?_⟩
    cases value <;> simp [Value.isBlank, Engine.GivesNothing, computed]

section

variable {s : Sheet} {script : Script} {engine : Engine}

theorem prints_prepareSave_failed (path : String) {cell : String}
    (first : cell ∈ script.formulas.keys.head?)
    (nothing : engine.GivesNothing script.text cell) :
    ∃ events, Prints (prepareSave engine script path) .failed events := by
  obtain ⟨rest, keys⟩ := List.head?_eq_some_iff.1 first
  obtain ⟨value, events, computed, blank⟩ := exists_prints_compute engine script.text cell
  rw [prepareSave, keys]
  apply Exists.intro
  apply computed.bind
  rw [if_pos (blank.2 nothing)]
  exact prints_then _ _

theorem prints_prepareSave_save (path : String)
    (h : ∀ cell ∈ script.formulas.keys.head?, ¬ engine.GivesNothing script.text cell) :
    ∃ events, Prints (prepareSave engine script path) (.save path script.text) events := by
  rw [prepareSave]
  cases keys : script.formulas.keys with
  | nil => exact ⟨_, .pure _⟩
  | cons cell rest =>
    obtain ⟨value, events, computed, blank⟩ := exists_prints_compute engine script.text cell
    apply Exists.intro
    apply computed.bind
    rw [if_neg (mt blank.1 (h cell (by simp [keys])))]
    exact .pure _

theorem prints_perform_save (h : s.toScript = .ok script) {path : String} {ending : Ending}
    {events : List Event} (prepared : Prints (prepareSave engine script path) ending events) :
    Prints (perform s engine (.save path)) ending events := by
  obtain ⟨p, hp⟩ := Program.exists_ofSheet h
  rw [perform, h, hp]
  exact (Prints.ofExcept script).bind_of_nil ((Prints.ofExcept p).bind_of_nil prepared)

theorem prints_perform_print (h : s.toScript = .ok script) :
    Prints (perform s engine .print) .done [.line script.text] := by
  obtain ⟨p, hp⟩ := Program.exists_ofSheet h
  rw [perform, h, hp]
  exact (Prints.ofExcept script).bind_of_nil ((Prints.ofExcept p).bind_of_nil (prints_then _ _))

def Ending.outcome (events : List Event) : Ending → Outcome
  | .done => { events }
  | .failed => { events, exit := some 1 }
  | .save path text => CommandLine.save path text events

theorem run_eq {name : String} {arguments : List String} {settings : Settings} {ending : Ending}
    {events : List Event} (asked : request arguments = .run settings)
    (printed : Prints (perform s engine settings.task) ending events) :
    run name s engine arguments = ending.outcome events := by
  rw [run, asked]
  simp only [printed.outcome_eq]
  cases ending <;> rfl

end

end CommandLine

open CommandLine Report

/-- Asked to save a script, a run leaves nothing and ends with status one if the first formula cell
gets no value. Else it ends well and leaves one file, which holds the line that is printed when
nothing is asked for. -/
theorem saves_what_it_prints_unless_first_formula_fails (name file path : String) (s : Sheet)
    (script : Script) (h : s.toScript = .ok script) (engine : Engine) (hfile : IsOperand file)
    (hpath : PlainName path) :
    let saving := run name s engine [file, "-o", path]
    let printing := run name s engine [file]
    (s.FirstFormulaFails engine script.text ∧
      saving.exit = some 1 ∧ saving.error = none ∧ saving.files = []) ∨
    (¬ s.FirstFormulaFails engine script.text ∧
      saving.exit = none ∧ saving.error = none ∧
      ∃ text, saving.files = [(path, text)] ∧ printing = { events := [.line text] }) := by
  intro saving printing
  have asked := request_output hfile (isOperand_of_head? hpath.no_minus)
  have task := task_output file hpath.nonempty
  by_cases fails : s.FirstFormulaFails engine script.text
  · left
    obtain ⟨cell, first, nothing⟩ := (Sheet.firstFormulaFails_iff h).1 fails
    obtain ⟨events, prepared⟩ := prints_prepareSave_failed path first nothing
    have outcome : saving = { events, exit := some 1 } :=
      run_eq asked (task ▸ prints_perform_save h prepared)
    rw [outcome]
    exact ⟨fails, rfl, rfl, rfl⟩
  · right
    have first : ∀ cell ∈ script.formulas.keys.head?, ¬ engine.GivesNothing script.text cell :=
      fun cell first nothing => fails ((Sheet.firstFormulaFails_iff h).2 ⟨cell, first, nothing⟩)
    obtain ⟨events, prepared⟩ := prints_prepareSave_save path first
    have outcome : saving = save path script.text events :=
      run_eq asked (task ▸ prints_perform_save h prepared)
    have shown : printing = { events := [.line script.text] } :=
      run_eq (request_operand hfile) (prints_perform_print h)
    rw [outcome, hpath.save_eq]
    exact ⟨fails, rfl, rfl, script.text, rfl, shown⟩

theorem saving_depends_on_first_formula :
    let s : Sheet := ⟨[[.whole 1, .text "=A1+1"], [.text "=B1"]]⟩
    let engine := Engine.ofTable (.ofList [("B1", .whole 2)]) none
    let other := Engine.ofTable (.ofList [("A2", .whole 2)]) none
    let arguments := ["book.xlsx", "-o", "out.js"]
    (∃ script, s.toScript = .ok script ∧ ¬ s.FirstFormulaFails engine script.text ∧
      s.FirstFormulaFails other script.text) ∧
    PlainName "out.js" ∧ IsOperand "book.xlsx" ∧
    (run "sheet" s engine arguments).exit = none ∧
    (∃ text, (run "sheet" s engine arguments).files = [("out.js", text)] ∧
      run "sheet" s engine ["book.xlsx"] = { events := [.line text] }) ∧
    (run "sheet" s other arguments).exit = some 1 ∧ (run "sheet" s other arguments).files = [] := by
  intro s engine other arguments
  let p : Program := .ofDeclarations [⟨"A1", "1", none, []⟩, ⟨"B1", "A1+1", some "=A1+1", ["A1"]⟩,
    ⟨"A2", "B1", some "=B1", ["B1"]⟩]
  have hp : Program.ofSheet s = .ok p := by with_unfolding_all rfl
  have arranged : p.arrange = .ok ["A1", "B1", "A2"] := by cbv
  have h : s.toScript = .ok ⟨"var A1 = 1;\nvar B1 = A1+1;\nvar A2 = B1;",
      .ofList [("B1", "=A1+1"), ("A2", "=B1")]⟩ :=
    (Program.toScript_of_arrange hp arranged).trans (by with_unfolding_all rfl)
  have plain : PlainName "out.js" := by constructor <;> decide
  have operand : IsOperand "book.xlsx" := isOperand_of_head? (by decide)
  have saved (text : String) : ¬ s.FirstFormulaFails engine text := by
    rw [Sheet.firstFormulaFails_iff h]
    rintro ⟨cell, first, ⟨_, failed⟩ | blank⟩
    · cases failed
    · obtain rfl : "B1" = cell := Option.some.inj first
      have value : engine.evaluate text "B1" = .ok (.whole 2) := by rfl
      cases value.symm.trans blank
  have refused (text : String) : s.FirstFormulaFails other text := by
    rw [Sheet.firstFormulaFails_iff h]
    exact ⟨"B1", rfl, .inr rfl⟩
  obtain ⟨_, exit, _, written⟩ := (saves_what_it_prints_unless_first_formula_fails "sheet"
    "book.xlsx" "out.js" s _ h engine operand plain).resolve_left fun both => saved _ both.1
  obtain ⟨_, status, _, empty⟩ := (saves_what_it_prints_unless_first_formula_fails "sheet"
    "book.xlsx" "out.js" s _ h other operand plain).resolve_right fun both => both.1 (refused _)
  exact ⟨⟨_, h, saved _, refused _⟩, plain, operand, exit, written, status, empty⟩

end SheetScript
