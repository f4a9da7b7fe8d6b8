import Mathlib.Data.List.Basic
import SheetScript.Text.Scan

namespace SheetScript.Text

theorem takeWhile_append_of_stop {p : Char → Bool} {l rest : List Char} (h : ∀ c ∈ l, p c = true)
    (stop : ∀ c ∈ rest.head?, p c = false) : (l ++ rest).takeWhile p = l := by
  rw [List.takeWhile_append_of_pos h]
  cases rest with
  | nil => simp
  | cons c rest => simp [stop c rfl]

theorem stop_of_mem_head?_drop {p : Char → Bool} {l : List Char} {c : Char}
    (h : c ∈ (l.drop (l.takeWhile p).length).head?) : p c = false := by
  induction l with
  | nil => simp at h
  | cons d l ih =>
    by_cases hd : p d = true
    · exact ih (by simpa [hd] using h)
    · simp_all

/-- Wherever it stands, `piece` is rewritten to `new` and what follows it is rewritten alone. -/
def Turns (R : List Char → List Char → Prop) (piece new : List Char) : Prop :=
  ∀ rest out, R rest out → R (piece ++ rest) (new ++ out)

namespace Turns

variable {R : List Char → List Char → Prop} {piece piece' new new' : List Char}

theorem append (h : Turns R piece new) (h' : Turns R piece' new') :
    Turns R (piece ++ piece') (new ++ new') := by
  intro rest out later
  rw [List.append_assoc, List.append_assoc]
  exact h _ _ (h' _ _ later)

theorem flatMap {τ : Type} {f g : τ → List Char} {ts : List τ} (h : ∀ t ∈ ts, Turns R (f t) (g t)) :
    Turns R (ts.flatMap f) (ts.flatMap g) := by
  induction ts with
  | nil => exact fun _ _ later => later
  | cons t ts ih =>
    obtain ⟨here, later⟩ := List.forall_mem_cons.1 h
    exact here.append (ih later)

theorem all (h : Turns R piece new) (nil : R [] []) : R piece new := by
  simpa using h [] [] nil

end Turns

variable {α ε : Type} {inner : Char → Bool} {find? : List Char → Option (α × Nat)}

@[simp] theorem scan_nil : scan inner find? [] = [] := by
  rw [scan]

theorem scan_found {piece rest : List Char} {a : α}
    (found : find? (piece ++ rest) = some (a, piece.length)) (ne : piece ≠ []) :
    scan inner find? (piece ++ rest) = .found a :: scan inner find? rest := by
  cases piece with
  | nil => exact absurd rfl ne
  | cons c piece =>
    rw [List.cons_append, scan, ← List.cons_append, found]
    simp

theorem scan_plain {c : Char} {rest : List Char} (missed : find? (c :: rest) = none)
    (outside : inner c = false) :
    scan inner find? (c :: rest) = .plain [c] :: scan inner find? rest := by
  rw [scan, missed]
  simp [outside]

theorem scan_run {c : Char} {run rest : List Char} (missed : find? (c :: run ++ rest) = none)
    (inside : ∀ x ∈ c :: run, inner x = true) (ends : ∀ x ∈ rest.head?, inner x = false) :
    scan inner find? (c :: run ++ rest) = .plain (c :: run) :: scan inner find? rest := by
  have whole : (run ++ rest).takeWhile inner = run :=
    takeWhile_append_of_stop (fun x mem => inside x (.tail _ mem)) ends
  rw [List.cons_append, scan, ← List.cons_append, missed]
  simp [inside c List.mem_cons_self, whole]

theorem scan_kept {piece rest : List Char}
    (missed : ∀ t, t ≠ [] → t <:+ piece → find? (t ++ rest) = none)
    (outside : ∀ c ∈ piece, inner c = false) :
    scan inner find? (piece ++ rest) = piece.map (.plain [·]) ++ scan inner find? rest := by
  induction piece with
  | nil => rfl
  | cons c piece ih =>
    have later := ih (fun t ne h => missed t ne (h.trans (List.suffix_cons c piece)))
      fun d mem => outside d (.tail _ mem)
    have here : find? (c :: (piece ++ rest)) = none := missed _ (by simp) List.suffix_rfl
    rw [List.cons_append, scan_plain here (outside c List.mem_cons_self), later]
    rfl

theorem exists_scan_eq_map_plain {cs : List Char} (missed : ∀ t, t <:+ cs → find? t = none) :
    ∃ parts : List (List Char), scan inner find? cs = parts.map .plain ∧ parts.flatten = cs := by
  fun_induction scan inner find? cs with
  | case1 => exact ⟨[], rfl, rfl⟩
  | case2 c rest a n found ih => simp [missed _ List.suffix_rfl] at found
  | case3 c rest _ run ih =>
    obtain ⟨parts, cut, whole⟩ := ih fun t h =>
      missed t ((h.trans (List.drop_suffix _ rest)).trans (List.suffix_cons c rest))
    have start : run <+: rest := by
      by_cases h : inner c = true
      · simp only [run, h]
        exact List.takeWhile_prefix inner
      · simp [run, h]
    refine ⟨(c :: run) :: parts, by rw [cut]; rfl, ?_⟩
    rw [List.flatten_cons, whole, List.cons_append, List.prefix_iff_eq_append.1 start]

section Replace

variable {write : α → List Char}

@[simp] theorem replace_nil : replace inner find? write [] = [] := by
  simp [replace]

theorem turns_replace_found {piece : List Char} {a : α}
    (found : ∀ rest, find? (piece ++ rest) = some (a, piece.length)) (ne : piece ≠ []) :
    Turns (replace inner find? write · = ·) piece (write a) := by
  rintro rest _ rfl
  simp [replace, scan_found (found rest) ne]

theorem turns_replace_kept {piece : List Char}
    (missed : ∀ t, t ≠ [] → t <:+ piece → ∀ rest, find? (t ++ rest) = none)
    (outside : ∀ c ∈ piece, inner c = false) :
    Turns (replace inner find? write · = ·) piece piece := by
  rintro rest _ rfl
  simp [replace, scan_kept (fun t ne h => missed t ne h rest) outside, List.flatMap_map]

theorem replace_eq_self {cs : List Char} (missed : ∀ t, t <:+ cs → find? t = none) :
    replace inner find? write cs = cs := by
  obtain ⟨parts, cut, whole⟩ := exists_scan_eq_map_plain missed
  rw [replace, cut, List.flatMap_map]
  simpa [List.flatMap_id] using whole

theorem mem_of_mem_replace {c : Char} {cs : List Char} (h : c ∈ replace inner find? write cs) :
    c ∈ cs ∨ ∃ a, c ∈ write a := by
  unfold replace at h
  fun_induction scan inner find? cs with
  | case1 => exact absurd h List.not_mem_nil
  | case2 d rest a n found ih =>
    rcases List.mem_append.1 h with here | later
    · exact .inr ⟨a, here⟩
    · exact (ih later).imp_left fun mem => .tail d (List.mem_of_mem_drop mem)
  | case3 d rest _ run ih =>
    have start : run ⊆ rest := by
      by_cases h : inner d = true
      · simp only [run, h]
        exact (List.takeWhile_prefix inner).subset
      · simp [run, h]
    rcases List.mem_append.1 h with here | later
    · exact .inl (List.mem_cons.2 ((List.mem_cons.1 here).imp_right fun mem => start mem))
    · exact (ih later).imp_left fun mem => .tail d (List.mem_of_mem_drop mem)

end Replace

section ReplaceM

variable {write : α → Except ε (List Char)}

def Segment.rewrite (write : α → Except ε (List Char)) : Segment α → Except ε (List Char)
  | .plain cs => .ok cs
  | .found a => write a

theorem replaceM_eq (cs : List Char) : replaceM inner find? write cs =
    List.flatten <$> (scan inner find? cs).mapM (Segment.rewrite write) := by
  unfold replaceM
  congr 1

@[simp] theorem replaceM_nil : replaceM inner find? write [] = .ok [] := by
  rw [replaceM, scan_nil]
  rfl

theorem replaceM_of_scan {cs rest new out : List Char} {segment : Segment α}
    (cut : scan inner find? cs = segment :: scan inner find? rest)
    (written : segment.rewrite write = .ok new)
    (later : replaceM inner find? write rest = .ok out) :
    replaceM inner find? write cs = .ok (new ++ out) := by
  rw [replaceM_eq] at later ⊢
  rw [cut, List.mapM_cons, written]
  revert later
  cases (scan inner find? rest).mapM (Segment.rewrite write) with
  | error e => exact nofun
  | ok parts =>
    rintro ⟨⟩
    rfl

theorem turns_replaceM_found {piece new : List Char} {a : α}
    (found : ∀ rest, find? (piece ++ rest) = some (a, piece.length)) (ne : piece ≠ [])
    (written : write a = .ok new) :
    Turns (replaceM inner find? write · = .ok ·) piece new := by
  intro rest out later
  exact replaceM_of_scan (scan_found (found rest) ne) written later

theorem turns_replaceM_kept {piece : List Char}
    (missed : ∀ t, t ≠ [] → t <:+ piece → ∀ rest, find? (t ++ rest) = none)
    (outside : ∀ c ∈ piece, inner c = false) :
    Turns (replaceM inner find? write · = .ok ·) piece piece := by
  intro rest out later
  induction piece with
  | nil => exact later
  | cons c piece ih =>
    have tail := ih (fun t ne h => missed t ne (h.trans (List.suffix_cons c piece)))
      fun d mem => outside d (.tail _ mem)
    have here : find? (c :: (piece ++ rest)) = none := missed _ (by simp) List.suffix_rfl rest
    have kept : Segment.rewrite write (.plain [c]) = .ok [c] := rfl
    have whole := replaceM_of_scan (scan_plain here (outside c List.mem_cons_self)) kept tail
    exact whole

theorem replaceM_eq_self {cs : List Char} (missed : ∀ t, t <:+ cs → find? t = none) :
    replaceM inner find? write cs = .ok cs := by
  obtain ⟨parts, cut, whole⟩ := exists_scan_eq_map_plain missed
  have plain : (parts.map Segment.plain).mapM (Segment.rewrite write) = .ok parts := by
    clear cut whole
    induction parts with
    | nil => rfl
    | cons part parts ih =>
      rw [List.map_cons, List.mapM_cons, ih]
      rfl
  rw [replaceM_eq, cut, plain, ← whole]
  rfl

end ReplaceM

section Finds

@[simp] theorem finds_nil : finds inner find? [] = [] := by
  simp [finds]

theorem finds_found {piece rest : List Char} {a : α}
    (found : find? (piece ++ rest) = some (a, piece.length)) (ne : piece ≠ []) :
    finds inner find? (piece ++ rest) = a :: finds inner find? rest := by
  simp [finds, scan_found found ne]

theorem finds_kept {piece rest : List Char}
    (missed : ∀ t, t ≠ [] → t <:+ piece → find? (t ++ rest) = none)
    (outside : ∀ c ∈ piece, inner c = false) :
    finds inner find? (piece ++ rest) = finds inner find? rest := by
  simp [finds, scan_kept missed outside, List.filterMap_map]

theorem finds_run {c : Char} {run rest : List Char} (missed : find? (c :: run ++ rest) = none)
    (inside : ∀ x ∈ c :: run, inner x = true) (ends : ∀ x ∈ rest.head?, inner x = false) :
    finds inner find? (c :: run ++ rest) = finds inner find? rest := by
  rw [finds, scan_run missed inside ends]
  rfl

end Finds

end SheetScript.Text
