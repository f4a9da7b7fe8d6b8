import SheetScript.Proofs.Formula.Compile

/-!
Calls of a function on cells and whole numbers. The comma that separates two arguments is also the
comma of decimal numbers, so that a number becomes the decimal part of the argument before it.
-/

namespace SheetScript.Formula

open Text

inductive Argument where
  | cell (column : Fin 26) (row : Numeral)
  | number (n : Numeral)
deriving DecidableEq

namespace Argument

def text : Argument → List Char
  | cell column row => letter column :: row.text
  | number n => n.text

def isCell : Argument → Bool
  | cell _ _ => true
  | number _ => false

def separated (later : List Argument) : List Char := later.flatMap fun a => ',' :: a.text

/-- The arguments behind another one as a script has them. A comma before a number becomes a point,
unless the argument before it was `taken` as a decimal part itself. -/
def joined : (taken : Bool) → List Argument → List Char
  | _, [] => []
  | _, cell column row :: later => ',' :: ((cell column row).text ++ joined false later)
  | true, number n :: later => ',' :: (n.text ++ joined false later)
  | false, number n :: later => '.' :: (n.text ++ joined true later)

def token : Argument → Token
  | cell column row => .cell (.short column row)
  | number n => .number n

@[simp] theorem spelled_token (spell : Extreme → List Char) (a : Argument) :
    a.token.spelled spell = a.text := by
  cases a <;> rfl

@[simp] theorem text_token (a : Argument) : a.token.text = a.text := by
  cases a <;> rfl

theorem anchor_not_mem_text (a : Argument) : '$' ∉ a.text := by
  cases a with
  | cell column row => simp [text, Numeral.text, digit_ne_anchor, (letter_ne_anchor column).symm]
  | number n => simp [text, Numeral.text, digit_ne_anchor]

theorem anchor_not_mem_joined (taken : Bool) (later : List Argument) :
    '$' ∉ joined taken later := by
  induction later generalizing taken with
  | nil => simp [joined]
  | cons a later ih =>
    have here := a.anchor_not_mem_text
    cases a with
    | cell column row => simpa [joined, ih] using here
    | number n => cases taken <;> simpa [joined, ih, text] using here

theorem isDecimal_head_separated (later : List Argument) :
    ∀ c ∈ (separated later ++ [')']).head?, isDecimal c = false := by
  cases later <;> rintro _ ⟨⟩ <;> decide

theorem pointDecimals_separated (later : List Argument) :
    (∀ n : Numeral, pointDecimals (n.text ++ (separated later ++ [')'])) =
      n.text ++ (joined false later ++ [')'])) ∧
    pointDecimals (separated later ++ [')']) = joined true later ++ [')'] := by
  -- Both at once: a number takes the one behind the next comma unless it was taken itself.
  induction later with
  | nil =>
    have closing : pointDecimals [')'] = [')'] := by
      rw [pointDecimals_cons (by decide), pointDecimals, replace_nil]
    refine ⟨fun n => ?_, closing⟩
    have number := pointDecimals_numeral n (isDecimal_head_separated []) (by simp [separated])
    rw [number]
    exact congrArg (n.text ++ ·) closing
  | cons a later ih =>
    obtain ⟨numbers, rest⟩ := ih
    cases a with
    | cell column row =>
      have cells : pointDecimals (separated (cell column row :: later) ++ [')']) =
          ',' :: ((cell column row).text ++ (joined false later ++ [')'])) := by
        change pointDecimals (',' :: (letter column :: (row.text ++ _) ++ _)) = _
        rw [pointDecimals_cons (by decide), List.cons_append,
          pointDecimals_cons (isDecimal_letter column), List.append_assoc]
        exact congrArg (',' :: letter column :: ·) (numbers row)
      have apart : ∀ more, separated (cell column row :: later) ++ [')'] = ',' :: more →
          ∀ c ∈ more.head?, isDecimal c = false := by
        rintro _ ⟨⟩ _ ⟨⟩
        exact isDecimal_letter column
      refine ⟨fun n => ?_, ?_⟩
      · rw [pointDecimals_numeral n (isDecimal_head_separated _) apart, cells]
        simp [joined]
      · rw [cells]
        simp [joined]
    | number m =>
      have text : separated (number m :: later) ++ [')'] =
          ',' :: (m.text ++ (separated later ++ [')'])) := by
        simp [separated, Argument.text]
      refine ⟨fun n => ?_, ?_⟩
      · rw [text, pointDecimals_comma n m (isDecimal_head_separated later), rest]
        simp [joined]
      · rw [text, pointDecimals_cons (by decide), numbers]
        simp [joined]

theorem pointDecimals_arguments (a : Argument) (later : List Argument) :
    pointDecimals (a.text ++ (separated later ++ [')'])) =
      a.text ++ (joined false later ++ [')']) := by
  have numbers := (pointDecimals_separated later).1
  cases a with
  | cell column row =>
    rw [text, List.cons_append, pointDecimals_cons (isDecimal_letter column), numbers]
    rfl
  | number n => exact numbers n

theorem joined_eq_separated_iff (later : List Argument) :
    joined false later = separated later ↔ ∀ a ∈ later, a.isCell = true := by
  induction later with
  | nil => simp [joined, separated]
  | cons a later ih =>
    cases a with
    | cell column row =>
      rw [List.forall_mem_cons, ← ih]
      simp [joined, separated, isCell]
    | number n => simp [joined, separated, isCell]

end Argument

namespace Extreme

open Argument

def call (opening : Extreme → List Char) (f : Extreme) (args : List Argument) : List Char :=
  opening f ++ ([','].intercalate (args.map Argument.text) ++ [')'])

theorem call_cons (opening : Extreme → List Char) (f : Extreme) (a : Argument)
    (later : List Argument) :
    call opening f (a :: later) = opening f ++ (a.text ++ (separated later ++ [')'])) := by
  rw [call, List.map_cons, intercalate_cons]
  simp [separated, List.flatMap_map]

def tokens (f : Extreme) (a : Argument) (later : List Argument) : List Token :=
  .call f :: a.token :: (later.flatMap (fun b => [.comma, b.token]) ++ [.closing])

theorem flatMap_tokens {write : Token → List Char} (args : ∀ a : Argument, write a.token = a.text)
    (comma : write .comma = [',']) (closing : write .closing = [')']) (f : Extreme) (a : Argument)
    (later : List Argument) :
    (tokens f a later).flatMap write = call (fun f => write (.call f)) f (a :: later) := by
  rw [call_cons]
  simp [tokens, separated, args, comma, closing, List.flatMap_assoc]

theorem pointDecimals_method (f : Extreme) (rest : List Char) :
    pointDecimals (f.method ++ rest) = f.method ++ pointDecimals rest := by
  have plain : f.method.all (fun c => !isDecimal c) = true := by cases f <;> decide
  generalize f.method = cs at plain
  induction cs with
  | nil => rfl
  | cons c cs ih =>
    obtain ⟨here, later⟩ := Bool.and_eq_true_iff.1 plain
    rw [List.cons_append, pointDecimals_cons (by simpa using here), ih later, List.cons_append]

theorem compileChars_call (f : Extreme) (a : Argument) (later : List Argument) :
    compileChars (call Extreme.text f (a :: later)) =
      .ok (f.method ++ (a.text ++ (joined false later ++ [')']))) := by
  have anchors : '$' ∉ f.method ++ (a.text ++ (joined false later ++ [')'])) := by
    have method : '$' ∉ f.method := by cases f <;> decide
    simp [method, a.anchor_not_mem_text, anchor_not_mem_joined]
  have text : render (tokens f a later) = call Extreme.text f (a :: later) :=
    flatMap_tokens text_token rfl rfl f a later
  have method : (tokens f a later).flatMap (Token.spelled Extreme.method) =
      f.method ++ (a.text ++ (separated later ++ [')'])) :=
    (flatMap_tokens (spelled_token Extreme.method) rfl rfl f a later).trans (call_cons _ f a later)
  rw [← text, compileChars_eq_ok (percent_not_mem_render _) (expandSums_render _),
    nameFunctions_spelled, method, pointDecimals_method, pointDecimals_arguments,
    dropAnchors_of_not_mem anchors]

end Extreme

open Extreme Argument in
/-- A call is compiled with its name changed and some of its commas turned to points. All of its
arguments are kept exactly when those behind the first one are cells. -/
theorem call_kept_iff_later_cells (f : Extreme) (a : Argument) (later : List Argument) :
    compile (String.ofList (call Extreme.text f (a :: later))) =
      .ok (String.ofList (f.method ++ (a.text ++ (joined false later ++ [')'])))) ∧
    (compile (String.ofList (call Extreme.text f (a :: later))) =
        .ok (String.ofList (call Extreme.method f (a :: later))) ↔
      ∀ b ∈ later, b.isCell = true) := by
  have compiled : compile (String.ofList (call Extreme.text f (a :: later))) =
      .ok (String.ofList (f.method ++ (a.text ++ (joined false later ++ [')'])))) := by
    rw [compile, String.toList_ofList, compileChars_call]
    rfl
  refine ⟨compiled, ?_⟩
  rw [compiled, call_cons, ← joined_eq_separated_iff, Except.ok.injEq, String.ofList_inj]
  simp

open Extreme in
theorem arguments_joined_at_comma :
    let args : List Argument := [.cell 0 ⟨[1], by decide⟩, .number ⟨[2], by decide⟩]
    String.ofList (call Extreme.text .greatest args) = "MAX(A1,2)" ∧
      String.ofList (call Extreme.method .greatest args) = "Math.max(A1,2)" ∧
      compile "MAX(A1,2)" = .ok "Math.max(A1.2)" ∧
      compile "MIN(1,2,3)" = .ok "Math.min(1.2,3)" := by
  refine ⟨by decide, by decide, ?_, ?_⟩ <;> decide +kernel

end SheetScript.Formula
