import SheetScript.Proofs.Graph.Peeling

universe u v

namespace SheetScript

open Relation

def FirstLeast {α : Type u} {β : Type v} [LinearOrder β] (f : α → β) (l : List α) (a : α) : Prop :=
  ∃ before after, l = before ++ a :: after ∧ (∀ b ∈ before, f a < f b) ∧ ∀ b ∈ after, f a ≤ f b

section

variable {α : Type u} {β : Type v} [LinearOrder β] {f : α → β} {l : List α} {a b : α}

theorem FirstLeast.le (h : FirstLeast f l a) (mem : b ∈ l) : f a ≤ f b := by
  obtain ⟨before, after, rfl, less, later⟩ := h
  rcases List.mem_append.1 mem with early | late
  · exact (less b early).le
  · rcases List.mem_cons.1 late with rfl | late
    · exact le_rfl
    · exact later b late

theorem FirstLeast.cons_of_lt (h : FirstLeast f l a) (less : f a < f b) :
    FirstLeast f (b :: l) a := by
  obtain ⟨before, after, rfl, others, later⟩ := h
  exact ⟨b :: before, after, rfl, List.forall_mem_cons.2 ⟨less, others⟩, later⟩

theorem FirstLeast.cons_cons {c : α} (h : FirstLeast f (b :: l) a) (le : f b ≤ f c) :
    FirstLeast f (b :: c :: l) a := by
  obtain ⟨before, after, eq, others, later⟩ := h
  cases before with
  | nil =>
    obtain ⟨rfl, rfl⟩ := List.cons.inj eq
    exact ⟨[], c :: l, rfl, others, List.forall_mem_cons.2 ⟨le, later⟩⟩
  | cons b' before =>
    obtain ⟨rfl, rfl⟩ := List.cons.inj eq
    obtain ⟨less, others⟩ := List.forall_mem_cons.1 others
    refine ⟨b :: c :: before, after, rfl, ?_, later⟩
    exact List.forall_mem_cons.2 ⟨less, List.forall_mem_cons.2 ⟨less.trans_le le, others⟩⟩

end

variable {V : Type u} [DecidableEq V]

namespace Peeling

theorem firstLeast_least (d : Degrees V) (v : V) (vs : List V) :
    FirstLeast d.get (v :: vs) (least d v vs) := by
  fun_induction least d v vs with
  | case1 v => exact ⟨[], [], rfl, by simp, by simp⟩
  | case2 v w vs ih =>
    by_cases less : d.get w < d.get v
    · rw [if_pos less] at ih ⊢
      exact ih.cons_of_lt ((ih.le List.mem_cons_self).trans_lt less)
    · rw [if_neg less] at ih ⊢
      exact ih.cons_cons (not_lt.1 less)

/-- Where peeling stands between two turns: at what is queued, or at the cells left over. -/
inductive Stage (V : Type u) where
  | queued (p : Peeling V)
  | leftover (p : Peeling V) (rest : List V)

namespace Stage

def peeling : Stage V → Peeling V
  | queued p => p
  | leftover p _ => p

/-- A turn of the first loop, the passage to the second loop, and a turn of that. -/
inductive Turn (g : Graph V) (cells : OrderedSet V) : Stage V → Stage V → Prop
  | first {p v queue} : p.queue = v :: queue →
      Turn g cells (.queued p) (.queued (p.takeFirst g v queue))
  | pass {p} : p.queue = [] →
      Turn g cells (.queued p) (.leftover p (cells.toList.filter (· ∉ p.output)))
  | any {p v rest w} : w = least p.degrees v rest →
      Turn g cells (.leftover p (v :: rest)) (.leftover (p.takeAny g w) ((v :: rest).erase w))

def Reached (g : Graph V) (cells : OrderedSet V) : Stage V → Prop :=
  ReflTransGen (Turn g cells) (.queued (start g cells))

variable {g : Graph V} {cells : OrderedSet V}

theorem Turn.unique {s t t' : Stage V} (h : Turn g cells s t) (h' : Turn g cells s t') :
    t = t' := by
  cases h with
  | first waiting =>
    cases h' with
    | first waiting' =>
      obtain ⟨rfl, rfl⟩ := List.cons.inj (waiting.symm.trans waiting')
      rfl
    | pass none => cases waiting.symm.trans none
  | pass none =>
    cases h' with
    | first waiting => cases waiting.symm.trans none
    | pass _ => rfl
  | any eq =>
    cases h' with
    | any eq' => rw [eq, eq']

theorem turns_drain (g : Graph V) (cells : OrderedSet V) (p : Peeling V) :
    ReflTransGen (Turn g cells) (.queued p) (.queued (p.drain g)) := by
  fun_induction Peeling.drain g p with
  | case1 p none => exact .refl
  | case2 p v queue waiting ih => exact .head (.first waiting) ih

theorem turns_takeRest (g : Graph V) (cells : OrderedSet V) (p : Peeling V) (rest : List V) :
    ReflTransGen (Turn g cells) (.leftover p rest) (.leftover (p.takeRest g rest) []) := by
  fun_induction Peeling.takeRest g p rest with
  | case1 p => exact .refl
  | case2 p v rest w ih => exact .head (.any rfl) ih

theorem reached_leftover (g : Graph V) (cells : OrderedSet V) :
    Reached g cells (.leftover ((start g cells).drain g)
      (cells.toList.filter (· ∉ g.front cells))) :=
  .tail (turns_drain g cells _) (.pass (sound_start g cells).drain.2)

theorem exists_last (g : Graph V) (cells : OrderedSet V) :
    ∃ last : Peeling V, last.output = g.peel cells ∧
      ∀ s, Reached g cells s → ReflTransGen (Turn g cells) s (.leftover last []) := by
  refine ⟨_, rfl, fun s reached => ?_⟩
  have ended := ReflTransGen.trans (reached_leftover g cells) (turns_takeRest g cells _ _)
  have unique : Relator.RightUnique (Turn g cells) := fun _ _ _ => Turn.unique
  rcases ReflTransGen.total_of_right_unique unique reached ended with before | behind
  · exact before
  · -- From the end there is no turn, so a stage that is reached from there is the end itself.
    rcases ReflTransGen.cases_head behind with rfl | ⟨t, turn, _⟩
    · exact .refl
    · cases turn

/-- What holds between two turns. In the second loop the degrees still count rows, but vertices that
are taken off need not be free any more. -/
def Counted (g : Graph V) (cells : OrderedSet V) : Stage V → Prop
  | queued p => Sound g cells [] p
  | leftover p rest =>
    (∀ v, p.degrees.get v = g.outstanding p.output v) ∧ rest = cells.toList.filter (· ∉ p.output)

theorem Counted.degree {s : Stage V} (h : Counted g cells s) (v : V) :
    s.peeling.degrees.get v = g.outstanding s.peeling.output v := by
  cases s with
  | queued p => simpa [peeling] using Sound.degree h v
  | leftover p rest => exact h.1 v

theorem get_takeAny {p : Peeling V} {w : V} (fresh : w ∉ p.output)
    (count : ∀ v, p.degrees.get v = g.outstanding p.output v) (v : V) :
    (p.takeAny g w).degrees.get v = g.outstanding (p.takeAny g w).output v := by
  have split := g.outstanding_concat fresh v
  rw [takeAny, Degrees.get_foldl_add, count]
  dsimp only
  omega

theorem Counted.turn {s t : Stage V} (h : Counted g cells s) (turn : Turn g cells s t) :
    Counted g cells t := by
  cases turn with
  | first waiting => exact Sound.takeFirst h waiting
  | pass none => exact ⟨h.degree, rfl⟩
  | @any p v rest w eq =>
    obtain ⟨count, left⟩ := h
    have mem : w ∈ v :: rest := eq ▸ least_mem p.degrees v rest
    have fresh : w ∉ p.output := by
      rw [left, List.mem_filter, decide_eq_true_eq] at mem
      exact mem.2
    refine ⟨get_takeAny fresh count, ?_⟩
    rw [left, (cells.nodup.filter _).erase_eq_filter, List.filter_filter]
    refine List.filter_congr fun u _ => Bool.eq_iff_iff.2 ?_
    simp [takeAny, and_comm]

theorem Reached.counted {s : Stage V} (h : Reached g cells s) : Counted g cells s := by
  induction h with
  | refl => exact sound_start g cells
  | tail _ turn ih => exact ih.turn turn

theorem Counted.exists_firstLeast {p : Peeling V} {rest : List V} {t : Stage V}
    (h : Counted g cells (.leftover p rest)) (turn : Turn g cells (.leftover p rest) t) :
    ∃ w, t.peeling.output = p.output ++ [w] ∧
      FirstLeast (g.outstanding p.output) (cells.toList.filter (· ∉ p.output)) w := by
  cases turn with
  | @any _ v rest w eq =>
    obtain ⟨count, left⟩ := h
    refine ⟨w, rfl, ?_⟩
    obtain ⟨before, after, split, less, later⟩ := firstLeast_least p.degrees v rest
    rw [← eq] at split less later
    simp only [count, Int.ofNat_lt, Int.ofNat_le] at less later
    exact ⟨before, after, left ▸ split, less, later⟩

end Stage

end Peeling

end SheetScript
