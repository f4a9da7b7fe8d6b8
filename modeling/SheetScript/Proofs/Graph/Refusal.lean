import SheetScript.Proofs.Graph.Cycles

universe u

namespace SheetScript

variable {V : Type u} [DecidableEq V]

namespace Search

section

variable {g : Graph V} {missing : Missing} {s s' : Search V} {v w : V}

theorem of_enter_eq_error (h : enter g missing s v = .error w) :
    missing = .refused ∧ w = v ∧ v ∉ g.keys := by
  by_cases key : v ∈ g.keys
  · simp [enter, key] at h
  · cases missing with
    | added => simp [enter, key] at h
    | refused => exact ⟨rfl, by simpa [enter, key, eq_comm] using h, key⟩

theorem Sound.of_step_eq_error (h : Sound g s) (rows : ∀ x ∈ s.roots, x ∈ g.keys)
    (failed : step g missing s = .error w) :
    missing = .refused ∧ w ∈ g.targets ∧ w ∉ g.keys := by
  obtain ⟨roots, stack, entered, closed, cut, added⟩ := s
  simp only [step] at failed
  split at failed
  · split at failed
    · cases failed
    · split at failed
      · cases failed
      · obtain ⟨_, _, absent⟩ := of_enter_eq_error failed
        exact absurd (rows _ List.mem_cons_self) absent
  · cases failed
  · split at failed
    · cases failed
    · split at failed
      · cases failed
      · obtain ⟨refused, rfl, absent⟩ := of_enter_eq_error failed
        obtain ⟨⟨done, row, _⟩, _⟩ := h.frames
        exact ⟨refused, Graph.mem_targets.2 ⟨_, by rw [row]; simp⟩, absent⟩

theorem Move.roots_subset (move : Move g s s') : s'.roots ⊆ s.roots := by
  cases move with
  | knownRoot _ => exact List.subset_cons_self _ _
  | newRoot _ => exact List.subset_cons_self _ _
  | _ => exact List.Subset.refl _

theorem exists_step_eq_error {P : Search V → Prop} (move : ∀ s s', P s → Move g s s' → P s')
    (start : P s) (h : run g missing s = .error w) : ∃ t, P t ∧ step g missing t = .error w := by
  fun_induction run g missing s with
  | case1 s ended => cases h
  | case2 s going v failed =>
    cases h
    exact ⟨s, start, failed⟩
  | case3 s going s' stepped ih =>
    exact ih (move s s' start (move_of_step_eq_ok (by simpa using going) stepped)) h

theorem of_run_eq_error (h : run g missing (start g) = .error w) :
    missing = .refused ∧ w ∈ g.targets ∧ w ∉ g.keys := by
  obtain ⟨t, ⟨sound, rows⟩, failed⟩ := exists_step_eq_error
    (P := fun s => Sound g s ∧ ∀ v ∈ s.roots, v ∈ g.keys)
    (fun _ _ inv move => ⟨inv.1.move move, fun v mem => inv.2 v (move.roots_subset mem)⟩)
    ⟨sound_start g, fun v mem => mem⟩ h
  exact sound.of_step_eq_error rows failed

theorem added_of_enter_refused (h : enter g .refused s v = .ok s') : s'.added = s.added := by
  by_cases key : v ∈ g.keys
  · simp only [enter, key, if_true, Except.ok.injEq] at h
    rw [← h]
  · simp [enter, key] at h

theorem added_of_step_refused (h : step g .refused s = .ok s') : s'.added = s.added := by
  obtain ⟨roots, stack, entered, closed, cut, added⟩ := s
  simp only [step] at h
  split at h
  · split at h
    · cases h
      rfl
    · split at h
      · cases h
        rfl
      · exact (added_of_enter_refused h :)
  · cases h
    rfl
  · split at h
    · cases h
      rfl
    · split at h
      · cases h
        rfl
      · exact (added_of_enter_refused h :)

theorem added_of_run_refused {t : Search V} (h : run g .refused s = .ok t) :
    t.added = s.added := by
  fun_induction run g .refused s with
  | case1 s ended =>
    cases h
    rfl
  | case2 s going v failed => cases h
  | case3 s going s' stepped ih => rw [ih h, added_of_step_refused stepped]

end

end Search

namespace Graph

variable {g h : Graph V}

theorem of_breakCycles_eq_error {missing : Missing} {w : V}
    (hw : g.breakCycles missing = .error w) : missing = .refused ∧ w ∈ g.targets ∧ w ∉ g.keys := by
  cases hs : Search.run g missing (.start g) with
  | ok s =>
    rw [breakCycles_of_run_eq_ok hs] at hw
    cases hw
  | error x =>
    rw [breakCycles, hs] at hw
    cases hw
    exact Search.of_run_eq_error hs

theorem keys_breakCycles_refused (hh : g.breakCycles .refused = .ok h) : h.keys = g.keys := by
  obtain ⟨s, hs⟩ := exists_run_of_breakCycles_eq_ok hh
  have none : s.added = [] := Search.added_of_run_refused hs
  rw [breakCycles_of_run_eq_ok hs, none, Except.ok.injEq] at hh
  rw [← hh, List.foldl_nil, removeEdges, OrderedMap.keys_mapValues]

end Graph

end SheetScript
