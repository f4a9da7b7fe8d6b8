import Mathlib.Data.List.Infix
import SheetScript.Lookup
import SheetScript.Proofs.Pattern.Literal

namespace SheetScript

namespace Pattern

def ended? : List Char → Option (List Char)
  | [] => none
  | c :: rest =>
    if c = ';' then some [] else if c = '\n' then none else (ended? rest).map (c :: ·)

def shortGroup : Node := .group 1 (.repeated 0 none .lazy (.any false))

def declarationParts (cs : List Char) : List Node :=
  literal cs ++ [shortGroup, .char .exact ';'.toNat]

theorem run_shortGroup (items : List Item) (parts : List Node)
    (h : items.reverse.flatMap Item.parts ++ [shortGroup, .char .exact ';'.toNat] = parts) :
    ∃ groups, Reading.run { items := items } "(.*?);".toList =
      .ok ⟨.ofItems parts, ((Node.ofItems parts).width groups).least, beginsWithChar parts⟩ := by
  let inside : Reading :=
    { frames := [⟨.capture none, 1, 6, {}, none, [], items⟩], groups := 1 }
  let behind : Reading :=
    { items := .part shortGroup :: items, groups := 1, widths := [(1, inside.width shortGroup)] }
  have read : Reading.run { items := items } "(.*?);".toList =
      (behind.push (.char .exact ';'.toNat)).run [] :=
    calc Reading.run { items := items } "(.*?);".toList
      _ = inside.run ['.', '*', '?', ')', ';'] := Reading.run_cons rfl rfl rfl
      _ = (inside.push (.any false)).run ['*', '?', ')', ';'] := Reading.run_cons rfl rfl rfl
      _ = (inside.push (.repeated 0 none .lazy (.any false))).run [')', ';'] :=
        Reading.run_cons rfl rfl rfl
      _ = behind.run [';'] := Reading.run_cons rfl rfl rfl
      _ = (behind.push (.char .exact ';'.toNat)).run [] := Reading.run_cons rfl rfl rfl
  refine ⟨fun g => (behind.widths.lookup g).getD .zero, ?_⟩
  rw [read, Reading.run, Reading.finish]
  simp [behind, Reading.push, Reading.allBranches, Reading.branch, Reading.width, unite, Item.parts,
    ← h]

theorem parse_declaration {cs : List Char} (h : Plain cs) (ne : cs ≠ []) :
    ∃ n ≤ cs.length + 1, parse (cs ++ "(.*?);".toList) =
      .ok ⟨.ofItems (declarationParts cs), n, true⟩ := by
  have parts : (((literal cs).map Item.part).reverse ++ []).reverse.flatMap Item.parts ++
      [shortGroup, .char .exact ';'.toNat] = declarationParts cs := by
    simp [declarationParts, List.flatMap_map, Item.parts]
  obtain ⟨groups, read⟩ := run_shortGroup _ _ parts
  have starts : beginsWithChar (declarationParts cs) = true := by
    cases cs with
    | nil => exact absurd rfl ne
    | cons c cs => rfl
  have behind : (Node.ofItems (declarationParts cs)).behindError? = none := by
    have never (holds : Width → Bool) :
        (Node.ofItems (declarationParts cs)).anyBehind holds = false := by
      simp [Node.anyBehind_ofItems, declarationParts, literal, Node.anyBehind, shortGroup]
    simp [Node.behindError?, never]
  refine ⟨((Node.ofItems (declarationParts cs)).width groups).least, ?_, ?_⟩
  · exact Node.least_width_literal_le groups cs [shortGroup, .char .exact ';'.toNat]
  · rw [parse, (Reading.run_literal h [] "(.*?);".toList).trans read, starts]
    simp only [behind]

def groupOf (found : Place × Marks) : Bool × Option (List Char) :=
  (found.2.crossed, found.2.taken 1)

/-- An attempt that takes a text with the first group, or fails. -/
inductive Takes : Option (List Char) → Attempt → Prop
  | failed (m : Marks) : Takes none (.failed m)
  | found {s : Place} {m : Marks} {e : List Char} : groupOf (s, m) = (false, some e) →
      Takes (some e) (.found s m)

theorem Takes.map_groupOf {found later total : Option (List Char)} {a : Attempt}
    {others : Option (Place × Marks)} (h : Takes found a) (all : found.or later = total)
    (rest : others.map groupOf = later.map fun e => (false, some e)) :
    (match a with
      | .found s m => some (s, m)
      | .failed _ => others).map groupOf = total.map fun e => (false, some e) := by
  rw [← all]
  cases h with
  | failed m => exact rest
  | found group => exact congrArg some group

section

variable {allowed : Char → Bool} {deep : Bool} {bound : Option Nat} {s s' : Place} {m m' : Marks}
  {next : Next}

theorem fewest_of_found (found : next s m = .found s' m') :
    fewest allowed deep bound s m next = .found s' m' := by
  rw [fewest, found]
  rfl

theorem fewest_of_stop (failed : next s m = .failed m')
    (stop : s.stepWithin allowed bound = none) :
    fewest allowed deep bound s m next = .failed (m.afterFailure deep m') := by
  rw [fewest, failed, Attempt.orTry]
  split <;> simp_all

theorem fewest_of_step (failed : next s m = .failed m')
    (step : s.stepWithin allowed bound = some s') : fewest allowed deep bound s m next =
      fewest allowed deep (bound.map (· - 1)) s' (m.afterFailure deep m') next := by
  rw [fewest, failed, Attempt.orTry]
  split <;> simp_all

end

def closing : Next := fun s m => one (Folding.exact.allows ';'.toNat) s (m.finish 1 s) .found

theorem takes_fewest (before cs : List Char) (n : Nat) (eq : n = cs.length) (start : Mark)
    (gone : List Char) (rest : start.rest = gone ++ cs) (left : start.left = gone.length + n) :
    Takes ((ended? cs).map (gone ++ ·)) (fewest (fun c => false || c ≠ '\n') false none
      ⟨before, cs, n, eq⟩ [some start] closing) := by
  induction cs generalizing before n gone with
  | nil =>
    have failed : closing ⟨before, [], n, eq⟩ [some start] = .failed [some start, some ⟨[], n⟩] :=
      rfl
    rw [fewest_of_stop failed rfl]
    exact .failed _
  | cons c cs ih =>
    by_cases semicolon : c = ';'
    · subst semicolon
      have found : closing ⟨before, ';' :: cs, n, eq⟩ [some start] =
          .found ⟨';' :: before, cs, n - 1, by simp [eq]⟩ [some start, some ⟨';' :: cs, n⟩] := rfl
      rw [fewest_of_found found, ended?, if_pos rfl]
      refine .found ?_
      simp [groupOf, Marks.crossed, Marks.taken, Marks.ends, left, rest]
    · have failed : closing ⟨before, c :: cs, n, eq⟩ [some start] =
          .failed [some start, some ⟨c :: cs, n⟩] := by
        rw [closing, one, Place.step_cons, Folding.allows_exact,
          if_neg (by simpa using Ne.symm semicolon)]
        rfl
      rw [ended?, if_neg semicolon]
      by_cases newline : c = '\n'
      · have stop : Place.stepWithin ⟨before, c :: cs, n, eq⟩ (fun c => false || c ≠ '\n') none =
            none := by
          simp [Place.stepWithin, more, Place.step_cons, newline]
        rw [fewest_of_stop failed stop, if_pos newline]
        exact .failed _
      · have step : Place.stepWithin ⟨before, c :: cs, n, eq⟩ (fun c => false || c ≠ '\n') none =
            some ⟨c :: before, cs, n - 1, by simp [eq]⟩ := by
          simp [Place.stepWithin, more, Place.step_cons, newline]
        have longer := ih (c :: before) (n - 1) (by simp [eq]) (gone ++ [c]) (by simp [rest])
          (by simp [left, eq]; omega)
        -- The attempt has left the end of the group behind, which is dropped before the next one.
        rw [fewest_of_step failed step, if_neg newline]
        simpa [Function.comp_def, Marks.afterFailure] using longer

def declared? (cs text : List Char) : Option (List Char) :=
  if cs <+: text then ended? (text.drop cs.length) else none

theorem length_lt_of_declared?_eq_some {cs text e : List Char} (h : declared? cs text = some e) :
    cs.length < text.length := by
  unfold declared? at h
  split at h
  · by_contra short
    rw [List.drop_eq_nil_of_le (Nat.le_of_not_lt short)] at h
    cases h
  · cases h

theorem takes_matcher (cs : List Char) (s : Place) : Takes (declared? cs s.rest)
    ((Node.ofItems (declarationParts cs)).matcher false s [] .found) := by
  rw [declarationParts, matcher_literal, declared?]
  split
  · have taken := takes_fewest (s.advance cs.length).before _ _ (s.advance cs.length).left_eq
      (s.advance cs.length).mark [] rfl (Nat.zero_add _).symm
    rwa [show (fun e : List Char => [] ++ e) = id from rfl, Option.map_id] at taken
  · exact .failed _

theorem searchFrom_declaration (cs before rest : List Char) (left : Nat) (h : left = rest.length) :
    ((Node.ofItems (declarationParts cs)).searchFrom 0 before rest left h).map groupOf =
      (rest.tails.findSome? (declared? cs)).map fun e => (false, some e) := by
  induction rest generalizing before left with
  | nil =>
    rw [Node.searchFrom, if_neg (Nat.not_lt_zero left), List.tails, List.findSome?_singleton]
    exact (takes_matcher cs ⟨before, [], left, h⟩).map_groupOf Option.or_none rfl
  | cons c rest ih =>
    have all : (declared? cs (c :: rest)).or (rest.tails.findSome? (declared? cs)) =
        (c :: rest).tails.findSome? (declared? cs) := by
      rw [List.tails, List.findSome?_cons]
      cases declared? cs (c :: rest) <;> rfl
    rw [Node.searchFrom, if_neg (Nat.not_lt_zero left)]
    exact (takes_matcher cs ⟨before, c :: rest, left, h⟩).map_groupOf all (ih ..)

theorem search_declaration {n : Nat} {cs : List Char} (h : n ≤ cs.length + 1) (text : List Char) :
    (search ⟨.ofItems (declarationParts cs), n, true⟩ text).map groupOf =
      (text.tails.findSome? (declared? cs)).map fun e => (false, some e) := by
  rw [search]
  split
  · rename_i short
    have none : text.tails.findSome? (declared? cs) = none := by
      rw [List.findSome?_eq_none_iff]
      intro t mem
      by_contra some
      obtain ⟨e, found⟩ := Option.ne_none_iff_exists'.1 some
      have long := length_lt_of_declared?_eq_some found
      have suffix := ((List.mem_tails _ _).1 mem).length_le
      simp only at short
      omega
    rw [none]
    rfl
  · exact searchFrom_declaration ..

end Pattern

def declarationStart (cell : List Char) : List Char := "var ".toList ++ cell ++ " = ".toList

theorem lookup_of_search {script cell : String} {p : Pattern} {found : Option (List Char)}
    (parsed : Pattern.parse (declarationPattern cell) = .ok p) (group : p.body.hasGroup 1 = true)
    (searched : (p.search script.toList).map Pattern.groupOf = found.map fun e => (false, some e)) :
    lookup script cell = .ok (some (String.ofList (found.getD []))) := by
  simp only [lookup, parsed, Except.mapError, bind, Except.bind]
  cases result : p.search script.toList with
  | none =>
    cases found with
    | none => rfl
    | some e => simp [result] at searched
  | some r =>
    cases found with
    | none => simp [result] at searched
    | some e =>
      simp only [result, Option.map_some, Option.some.injEq, Pattern.groupOf,
        Prod.mk.injEq] at searched
      simp [searched, group, pure, Except.pure]

theorem lookup_eq {cell : String} (h : Pattern.Plain cell.toList) (script : String) :
    lookup script cell = .ok (some (String.ofList ((script.toList.tails.findSome?
      (Pattern.declared? (declarationStart cell.toList))).getD []))) := by
  have plain : Pattern.Plain (declarationStart cell.toList) := by
    rw [Pattern.Plain, declarationStart, List.forall_mem_append, List.forall_mem_append]
    exact ⟨⟨by simp [Pattern.signs], h⟩, by simp [Pattern.signs]⟩
  obtain ⟨n, least, parsed⟩ := Pattern.parse_declaration plain (List.cons_ne_nil _ _)
  have searched := Pattern.search_declaration least script.toList
  have pattern : declarationPattern cell = declarationStart cell.toList ++ "(.*?);".toList := by
    simp [declarationPattern, declarationStart]
  have group : (Pattern.Node.ofItems
      (Pattern.declarationParts (declarationStart cell.toList))).hasGroup 1 = true := by
    simp [Pattern.Node.hasGroup_ofItems, Pattern.declarationParts, Pattern.shortGroup,
      Pattern.Node.hasGroup]
  exact lookup_of_search (pattern ▸ parsed) group searched

end SheetScript
