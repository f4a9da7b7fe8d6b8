import SheetScript.Proofs.Graph.Cycles

/-!
What breaking cycles does to arrows that lie on no cycle. Such an arrow is cut only because the
search has left its end open, and that happens only to vertices from which a cycle is reached.
-/

universe u

namespace SheetScript

open Relation

variable {V : Type u} [DecidableEq V]

namespace Search

def Abandoned (s : Search V) (v : V) : Prop :=
  v ∈ s.entered ∧ v ∉ s.closed ∧ v ∉ s.stack.map (·.1)

/-- An arrow was cut because it lies on a cycle, or because its end is abandoned. -/
def CutForCause (g : Graph V) (s : Search V) : Prop :=
  ∀ e ∈ s.cut, g.Reaches e.2 e.1 ∨ s.Abandoned e.2

theorem Abandoned.move {g : Graph V} {s s' : Search V} {v : V} (h : s.Abandoned v)
    (move : Move g s s') : s'.Abandoned v := by
  obtain ⟨known, opened, off⟩ := h
  cases move with
  | knownRoot _ => exact ⟨known, opened, off⟩
  | newRoot fresh =>
    refine ⟨.tail _ known, opened, ?_⟩
    simp only [List.map_cons, List.map_nil, List.mem_singleton]
    rintro rfl
    exact fresh known
  | close =>
    simp only [List.map_cons, List.mem_cons, not_or] at off
    exact ⟨known, by simp [off.1, opened], off.2⟩
  | pass _ => exact ⟨known, opened, off⟩
  | leave _ _ =>
    simp only [List.map_cons, List.mem_cons, not_or] at off
    exact ⟨known, opened, off.2⟩
  | descend fresh =>
    refine ⟨.tail _ known, opened, ?_⟩
    simp only [List.map_cons, List.mem_cons, not_or] at off ⊢
    exact ⟨fun eq => fresh (eq ▸ known), off⟩

section Leave

variable {g : Graph V} {roots entered closed added : List V} {cut : List (V × V)} {v w : V}
  {ws : List V} {stack : List (V × List V)}

theorem Sound.reaches_or_abandoned
    (h : Sound g ⟨roots, (v, w :: ws) :: stack, entered, closed, cut, added⟩)
    (opened : w ∉ closed) (known : w ∈ entered) :
    g.Reaches w v ∨
      Abandoned ⟨roots, (v, w :: ws) :: stack, entered, closed, cut, added⟩ w := by
  by_cases on : w ∈ ((v, w :: ws) :: stack).map (·.1)
  · left
    rcases List.mem_cons.1 on with rfl | on
    · exact .refl
    · exact (h.frames.2.transGen on).to_reflTransGen
  · exact .inr ⟨known, opened, on⟩

theorem CutForCause.leave
    (cause : CutForCause g ⟨roots, (v, w :: ws) :: stack, entered, closed, cut, added⟩)
    (h : Sound g ⟨roots, (v, w :: ws) :: stack, entered, closed, cut, added⟩)
    (opened : w ∉ closed) (known : w ∈ entered) :
    CutForCause g ⟨roots, stack, entered, closed, (v, w) :: entrance v stack ++ cut, added⟩ := by
  have move : Move g ⟨roots, (v, w :: ws) :: stack, entered, closed, cut, added⟩
      ⟨roots, stack, entered, closed, (v, w) :: entrance v stack ++ cut, added⟩ :=
    .leave opened known
  intro e mem
  simp only [List.cons_append, List.mem_cons, List.mem_append] at mem
  rcases mem with rfl | new | old
  · exact (h.reaches_or_abandoned opened known).imp_right fun gone => gone.move move
  · obtain ⟨known, opened⟩ := h.onStack v List.mem_cons_self
    rw [(mem_entrance new).2]
    exact .inr ⟨known, opened, (List.nodup_cons.1 h.distinct).1⟩
  · exact (cause e old).imp_right fun gone => gone.move move

end Leave

theorem CutForCause.move {g : Graph V} {s s' : Search V} (cause : CutForCause g s)
    (sound : Sound g s) (move : Move g s s') : CutForCause g s' := by
  have kept {e : V × V} (mem : e ∈ s.cut) : g.Reaches e.2 e.1 ∨ s'.Abandoned e.2 :=
    (cause e mem).imp_right fun gone => gone.move move
  cases move with
  | leave opened known => exact cause.leave sound opened known
  | _ => exact fun e mem => kept mem

theorem cutForCause_of_run_eq_ok {g : Graph V} {missing : Missing} {s : Search V}
    (h : run g missing (start g) = .ok s) : CutForCause g s := by
  have both := run_induction (P := fun s => Sound g s ∧ CutForCause g s)
    (fun _ _ inv move => ⟨inv.1.move move, inv.2.move inv.1 move⟩)
    ⟨sound_start g, by simp [CutForCause, start]⟩ h
  exact both.1.2

theorem kept_iff_of_not_reaches {g : Graph V} {missing : Missing} {s : Search V}
    (h : run g missing (start g) = .ok s) {u v : V} (a : g.Arrow u v) (off : ¬ g.Reaches v u) :
    Kept g s.cut u v ↔ v ∉ s.entered ∨ v ∈ s.closed ∨ v ∈ s.unfollowed g u := by
  obtain ⟨sound, empty, ended⟩ := sound_of_run_eq_ok h
  constructor
  · intro kept
    by_cases closed : u ∈ s.closed
    · exact .inr (.inl (sound.inOrder.mem_of_kept closed kept))
    · have left := sound.leftOpen_of_arrow empty ended a closed
      exact .inr (mem_unfollowed_of_leftOpen left closed kept)
  · intro spared
    refine ⟨a, fun lost => ?_⟩
    obtain ⟨known, opened, _⟩ := (cutForCause_of_run_eq_ok h _ lost).resolve_left off
    rcases spared with new | closed | unfollowed
    · exact new known
    · exact opened closed
    · exact (kept_of_mem_unfollowed unfollowed).2 lost

theorem Sound.reachesCycle_of_abandoned {g : Graph V} {s : Search V} (h : Sound g s) {v : V}
    (gone : s.Abandoned v) : g.ReachesCycle v := by
  obtain ⟨known, opened, off⟩ := gone
  obtain ⟨_, w, _, _, lost, _⟩ := (h.left v known opened).resolve_left off
  exact (h.cutFrom _ lost).2

end Search

namespace Graph

/-- The search through the rows of a graph leaves `v` before it has followed all its arrows. -/
def StaysOpen (g : Graph V) (v : V) : Prop :=
  ∃ s, Search.run g .added (.start g) = .ok s ∧ s.Abandoned v

theorem StaysOpen.reachesCycle {g : Graph V} {v : V} (h : g.StaysOpen v) : g.ReachesCycle v := by
  obtain ⟨s, hs, gone⟩ := h
  exact (Search.sound_of_run_eq_ok hs).1.reachesCycle_of_abandoned gone

theorem arrow_breakCycles_iff_of_not_reaches {g h : Graph V} (hh : g.breakCycles .added = .ok h)
    {u v : V} (a : g.Arrow u v) (off : ¬ g.Reaches v u) :
    h.Arrow u v ↔ ¬ g.StaysOpen v ∨ g.Unfollowed u v := by
  obtain ⟨s, hs⟩ := exists_run_of_breakCycles_eq_ok hh
  obtain ⟨_, empty, _⟩ := Search.sound_of_run_eq_ok hs
  have stays : g.StaysOpen v ↔ v ∈ s.entered ∧ v ∉ s.closed := by
    simp [StaysOpen, hs, Search.Abandoned, empty]
  have behind : g.Unfollowed u v ↔ v ∈ s.unfollowed g u := by simp [Unfollowed, hs]
  rw [arrow_breakCycles hs hh, Search.kept_iff_of_not_reaches hs a off, stays, behind]
  tauto

end Graph

end SheetScript
