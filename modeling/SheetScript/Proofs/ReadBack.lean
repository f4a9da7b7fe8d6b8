import SheetScript.Proofs.Lookup
import SheetScript.Proofs.Names
import SheetScript.Proofs.Script

/-!
What is written into a script can be looked up in it. As long as no expression holds a line break or
the word that starts a declaration, declarations start where lines start, and a name is declared
only by its own line.
-/

namespace SheetScript

def declarationWord : List Char := "var ".toList

section

variable {name cell e rest : List Char}

theorem prefix_of_prefix_append {w t rest : List Char} (h : w <+: t ++ rest)
    (stop : ∀ c ∈ rest.head?, c ∉ w) : w <+: t := by
  induction t generalizing w with
  | nil =>
    cases w with
    | nil => exact List.nil_prefix
    | cons c w =>
      obtain ⟨_, rfl⟩ := h
      exact absurd List.mem_cons_self (stop c rfl)
  | cons d t ih =>
    cases w with
    | nil => exact List.nil_prefix
    | cons c w =>
      obtain ⟨rfl, later⟩ := List.cons_prefix_cons.1 h
      refine List.cons_prefix_cons.2 ⟨rfl, ih later fun x head mem => ?_⟩
      exact stop x head (.tail _ mem)

theorem infix_of_infix_append {c : Char} {w front back : List Char} (h : c :: w <:+: front ++ back)
    (fresh : c ∉ front) : c :: w <:+: back := by
  induction front with
  | nil => exact h
  | cons d front ih =>
    obtain ⟨ne, later⟩ := not_or.1 (mt List.mem_cons.2 fresh)
    rcases List.infix_cons_iff.1 h with start | inner
    · exact absurd (List.cons_prefix_cons.1 start).1 ne
    · exact ih inner later

theorem findSome?_tails_append {α : Type} {f : List Char → Option α} {piece rest : List Char}
    (missed : ∀ t, t ≠ [] → t <:+ piece → f (t ++ rest) = none) :
    (piece ++ rest).tails.findSome? f = rest.tails.findSome? f := by
  induction piece with
  | nil => rfl
  | cons c piece ih =>
    have here : f (c :: piece ++ rest) = none := missed _ (by simp) List.suffix_rfl
    rw [List.cons_append, List.tails, List.findSome?_cons, ← List.cons_append, here]
    exact ih fun t ne suffix => missed t ne (suffix.trans (List.suffix_cons c piece))

theorem not_declarationWord_cons {c : Char} (h : c ≠ 'v') (rest : List Char) :
    ¬ declarationWord <+: c :: rest :=
  fun start => h (List.cons_prefix_cons.1 start).1.symm

theorem not_declarationWord_append (hname : IsName name) (once : ¬ declarationWord <:+: e)
    {t : List Char} (suffix : t <:+ "ar ".toList ++ name ++ " = ".toList ++ e) (rest : List Char) :
    ¬ declarationWord <+: t ++ ';' :: rest := by
  intro start
  have within : declarationWord <+: t := prefix_of_prefix_append start (by simp [declarationWord])
  have fresh : 'v' ∉ "ar ".toList ++ name ++ " = ".toList := by
    have inName : 'v' ∉ name := hname.not_mem (by decide) (by decide)
    simp [inName]
  exact once (infix_of_infix_append (List.infix_iff_prefix_suffix.2 ⟨t, within, suffix⟩) fresh)

theorem declared?_eq_none {text : List Char} (h : ¬ declarationWord <+: text) :
    Pattern.declared? (declarationStart cell) text = none := by
  refine if_neg fun start => h ?_
  exact ((List.prefix_append _ _).trans (List.prefix_append _ _)).trans start

theorem ended?_append (line : '\n' ∉ e) (rest : List Char) :
    Pattern.ended? (e ++ ';' :: rest) = some (e.takeWhile (· ≠ ';')) := by
  induction e with
  | nil => rfl
  | cons c e ih =>
    obtain ⟨ne, later⟩ := not_or.1 (mt List.mem_cons.2 line)
    by_cases semicolon : c = ';'
    · simp [Pattern.ended?, semicolon]
    · simp [Pattern.ended?, semicolon, Ne.symm ne, ih later]

theorem declared?_line (hname : IsName name) (hcell : IsName cell) (line : '\n' ∉ e)
    (rest : List Char) :
    Pattern.declared? (declarationStart cell) (declarationStart name ++ (e ++ ';' :: rest)) =
      if name = cell then some (e.takeWhile (· ≠ ';')) else none := by
  by_cases same : name = cell
  · subst same
    rw [Pattern.declared?, if_pos (List.prefix_append _ _), List.drop_left, ended?_append line,
      if_pos rfl]
  · rw [if_neg same]
    refine if_neg ?_
    rintro ⟨t, text⟩
    apply same
    have names : name ++ ' ' :: ("= ".toList ++ (e ++ ';' :: rest)) =
        cell ++ ' ' :: ("= ".toList ++ t) := by
      simpa [declarationStart] using text.symm
    exact hname.eq_of_append_eq hcell (by decide) (by decide) names

theorem findSome?_tails_line (hname : IsName name) (hcell : IsName cell) (line : '\n' ∉ e)
    (once : ¬ declarationWord <:+: e) (rest : List Char) :
    (declarationStart name ++ (e ++ ';' :: rest)).tails.findSome?
        (Pattern.declared? (declarationStart cell)) =
      if name = cell then some (e.takeWhile (· ≠ ';'))
      else rest.tails.findSome? (Pattern.declared? (declarationStart cell)) := by
  have whole : declarationStart name ++ (e ++ ';' :: rest) =
      'v' :: ("ar ".toList ++ name ++ " = ".toList ++ e ++ ';' :: rest) := by
    simp [declarationStart]
  have later : (';' :: rest).tails.findSome? (Pattern.declared? (declarationStart cell)) =
      rest.tails.findSome? (Pattern.declared? (declarationStart cell)) := by
    rw [List.tails, List.findSome?_cons,
      declared?_eq_none (not_declarationWord_cons (by decide) rest)]
  have here := declared?_line hname hcell line rest
  rw [whole] at here ⊢
  rw [List.tails, List.findSome?_cons, here]
  by_cases same : name = cell
  · simp [same]
  · simp only [same, if_false]
    rw [findSome?_tails_append, later]
    exact fun t _ suffix => declared?_eq_none (not_declarationWord_append hname once suffix rest)

end

theorem findSome?_tails_listing {entries : List (String × String)} {cell : String}
    (names : ∀ e ∈ entries, IsName e.1.toList)
    (plain : ∀ e ∈ entries, '\n' ∉ e.2.toList ∧ ¬ declarationWord <:+: e.2.toList)
    (hcell : IsName cell.toList) :
    (Program.listing entries).toList.tails.findSome?
        (Pattern.declared? (declarationStart cell.toList)) =
      (entries.find? (·.1 = cell)).map fun e => e.2.toList.takeWhile (· ≠ ';') := by
  have text (entries : List (String × String)) : (Program.listing entries).toList =
      ['\n'].intercalate (entries.map fun e =>
        declarationStart e.1.toList ++ (e.2.toList ++ [';'])) := by
    simp [Program.listing, declare, declarationStart, Function.comp_def]
  induction entries with
  | nil => rw [text]; rfl
  | cons e entries ih =>
    obtain ⟨name, names⟩ := List.forall_mem_cons.1 names
    obtain ⟨⟨line, once⟩, plain⟩ := List.forall_mem_cons.1 plain
    have same : e.1.toList = cell.toList ↔ e.1 = cell := String.toList_inj
    -- Between two lines stands a line break, at which no declaration starts.
    have rest : ∃ rest, (Program.listing (e :: entries)).toList =
        declarationStart e.1.toList ++ (e.2.toList ++ ';' :: rest) ∧
        rest.tails.findSome? (Pattern.declared? (declarationStart cell.toList)) =
          (entries.find? (·.1 = cell)).map fun e => e.2.toList.takeWhile (· ≠ ';') := by
      cases entries with
      | nil => exact ⟨[], by simp [text], rfl⟩
      | cons e' entries =>
        refine ⟨'\n' :: (Program.listing (e' :: entries)).toList, ?_, ?_⟩
        · rw [text, text]
          simp
        · rw [← ih names plain, List.tails, List.findSome?_cons,
            declared?_eq_none (not_declarationWord_cons (by decide) _)]
    obtain ⟨rest, whole, later⟩ := rest
    rw [whole, findSome?_tails_line name hcell line once, later]
    by_cases eq : e.1 = cell <;> simp [eq, same]

theorem IsName.not_mem_signs {name : List Char} (h : IsName name) : Pattern.Plain name := by
  have apart : Pattern.signs.all (fun c => !c.isUpper && !Text.isDecimal c) = true := by decide
  intro c mem sign
  obtain ⟨upper, decimal⟩ := Bool.and_eq_true_iff.1 (List.all_eq_true.1 apart c sign)
  exact h.not_mem (by simpa using upper) (by simpa using decimal) mem

theorem Program.exists_ofSheet {s : Sheet} {script : Script} (h : s.toScript = .ok script) :
    ∃ p, ofSheet s = .ok p := by
  cases hp : ofSheet s with
  | error e =>
    rw [Sheet.toScript, hp] at h
    cases h
  | ok p => exact ⟨p, rfl⟩

/-- Looking up a cell in a script gives the expression that its line declares, up to a semicolon in
it, and the empty text if no line declares the cell. -/
theorem lookup_eq_declared_expression (s : Sheet) (script : Script) (h : s.toScript = .ok script) :
    ∃ (p : Program) (entries : List (String × String)), Program.ofSheet s = .ok p ∧
      entries.Perm p.cells.entries ∧
      script.text = "\n".intercalate
        (entries.map fun e => "var " ++ e.1 ++ " = " ++ e.2 ++ ";") ∧
      ((∀ e ∈ entries, '\n' ∉ e.2.toList ∧ ¬ "var ".toList <:+: e.2.toList) →
        ∀ cell : String, IsName cell.toList →
          (∀ expression, (cell, expression) ∈ entries → lookup script.text cell =
            .ok (some (String.ofList (expression.toList.takeWhile (· ≠ ';'))))) ∧
          ((∀ expression, (cell, expression) ∉ entries) →
            lookup script.text cell = .ok (some ""))) := by
  obtain ⟨p, hp⟩ := Program.exists_ofSheet h
  obtain ⟨entries, perm, text, _⟩ := Program.exists_listing hp h
  refine ⟨p, entries, hp, perm, text, fun plain cell hcell => ?_⟩
  have names : ∀ e ∈ entries, IsName e.1.toList := fun e mem =>
    Program.isName_of_mem_cells hp (OrderedMap.mem_keys.1 (List.mem_map_of_mem (perm.subset mem)))
  have distinct : (entries.map (·.1)).Nodup := (perm.map _).nodup_iff.2 p.cells.nodup_keys
  have found := lookup_eq hcell.not_mem_signs script.text
  rw [text, findSome?_tails_listing names plain hcell] at found
  rw [text]
  constructor
  · intro expression mem
    have first : entries.find? (·.1 = cell) = some (cell, expression) := by
      cases search : entries.find? (·.1 = cell) with
      | none => simpa using List.find?_eq_none.1 search _ mem
      | some e =>
        have same : e.1 = cell := by simpa using List.find?_some search
        rw [List.inj_on_of_nodup_map distinct (List.mem_of_find?_eq_some search) mem same]
    simpa [first] using found
  · intro missing
    have none : entries.find? (·.1 = cell) = none := by
      rw [List.find?_eq_none]
      rintro ⟨name, expression⟩ mem same
      obtain rfl : name = cell := by simpa using same
      exact missing expression mem
    simpa [none] using found

theorem lookup_of_cut_expression :
    let s : Sheet := ⟨[[.text "=B1*2;A2", .text "=A2+1"], [.whole 3]]⟩
    let entries := [("A1", "B1*2;A2"), ("B1", "A2+1"), ("A2", "3")]
    (∀ e ∈ entries, '\n' ∉ e.2.toList ∧ ¬ "var ".toList <:+: e.2.toList) ∧
      ∃ script, s.toScript = .ok script ∧ lookup script.text "A1" = .ok (some "B1*2") ∧
        lookup script.text "A11" = .ok (some "") := by
  intro s entries
  let p' : Program := .ofDeclarations [⟨"A1", "B1*2;A2", some "=B1*2;A2", ["B1", "A2"]⟩,
    ⟨"B1", "A2+1", some "=A2+1", ["A2"]⟩, ⟨"A2", "3", none, []⟩]
  have hp : Program.ofSheet s = .ok p' := by with_unfolding_all rfl
  have arranged : p'.arrange = .ok ["A2", "B1", "A1"] := by cbv
  have hs : s.toScript = .ok ⟨"var A2 = 3;\nvar B1 = A2+1;\nvar A1 = B1*2;A2;",
      .ofList [("A1", "=B1*2;A2"), ("B1", "=A2+1")]⟩ :=
    (Program.toScript_of_arrange hp arranged).trans (by with_unfolding_all rfl)
  have plain : ∀ e ∈ entries, '\n' ∉ e.2.toList ∧ ¬ "var ".toList <:+: e.2.toList := by
    simp [entries]
    decide
  obtain ⟨p, lines, ofSheet, perm, _, all⟩ := lookup_eq_declared_expression s _ hs
  have cells : p.cells.entries = entries := by
    rw [← Except.ok.inj (hp.symm.trans ofSheet)]
    rfl
  have mem {e : String × String} : e ∈ lines ↔ e ∈ entries := cells ▸ perm.mem_iff
  have looked := all fun e h => plain e (mem.1 h)
  have first : IsName "A1".toList := by simp [IsName]; decide
  have other : IsName "A11".toList := by simp [IsName]; decide
  refine ⟨plain, _, hs, (looked _ first).1 "B1*2;A2" (mem.2 (by simp [entries])), ?_⟩
  exact (looked _ other).2 fun expression h => by simpa [entries] using mem.1 h

end SheetScript
