import SheetScript.Proofs.Graph.Search

/-!
What breaking cycles leaves. A graph without cycles keeps all its arrows. Of a graph with cycles
those remain whose arrows all stand behind the arrow at which the search left their start: that is
when an arrow at a vertex that stays open is never followed.
-/

universe u

namespace SheetScript

open Relation

variable {V : Type u} [DecidableEq V]

namespace Search

/-- The arrows that were never followed: those of a vertex left open behind the last that was
cut. -/
def unfollowed (g : Graph V) (s : Search V) (v : V) : List V :=
  if v ∈ s.closed then [] else (g.next v).rtakeWhile fun w => !s.cut.contains (v, w)

def Kept (g : Graph V) (cut : List (V × V)) (u v : V) : Prop := g.Arrow u v ∧ (u, v) ∉ cut

theorem kept_of_mem_unfollowed {g : Graph V} {s : Search V} {u v : V}
    (h : v ∈ s.unfollowed g u) : Kept g s.cut u v := by
  unfold unfollowed at h
  split at h
  · exact absurd h List.not_mem_nil
  · refine ⟨(List.rtakeWhile_suffix _ _).subset h, ?_⟩
    simpa using List.mem_rtakeWhile_imp h

theorem mem_unfollowed_of_leftOpen {g : Graph V} {s : Search V} {u v : V}
    (left : LeftOpen g s.cut s.closed u) (opened : u ∉ s.closed) (a : Kept g s.cut u v) :
    v ∈ s.closed ∨ v ∈ s.unfollowed g u := by
  obtain ⟨done, w, behind, row, cut, followed⟩ := left
  have later : ∀ x ∈ behind, (u, x) ∉ s.cut := by
    intro x mem lost
    have distinct := g.nodup_next u
    rw [row, List.nodup_append] at distinct
    rcases List.mem_append.1 (followed.all x lost) with old | here
    · exact distinct.2.2 x old x (.tail _ mem) rfl
    · exact (List.nodup_cons.1 distinct.2.1).1 (List.mem_singleton.1 here ▸ mem)
  have arrow := a.1
  rw [Graph.Arrow, row] at arrow
  rcases List.mem_append.1 arrow with old | here
  · exact .inl ((followed.settled v (List.mem_append_left _ old)).resolve_left a.2)
  · rcases List.mem_cons.1 here with rfl | behindMem
    · exact absurd cut a.2
    · right
      have tail : (g.next u).rtakeWhile (fun x => !s.cut.contains (u, x)) = behind := by
        rw [row, List.rtakeWhile, List.reverse_append, List.reverse_cons, List.append_assoc,
          List.takeWhile_append_of_pos (by simpa using later)]
        simp [cut]
      rw [unfollowed, if_neg opened, tail]
      exact behindMem

theorem ClosedInOrder.mem_of_kept {g : Graph V} {cut : List (V × V)} {l : List V}
    (h : ClosedInOrder g cut l) {u v : V} (hu : u ∈ l) (a : Kept g cut u v) : v ∈ l := by
  induction l with
  | nil => exact absurd hu List.not_mem_nil
  | cons x before ih =>
    rcases List.mem_cons.1 hu with rfl | hu
    · exact .tail _ ((h.1 v a.1).resolve_left a.2)
    · exact .tail _ (ih h.2 hu)

theorem ClosedInOrder.mem_of_path {g : Graph V} {cut : List (V × V)} {l : List V}
    (h : ClosedInOrder g cut l) {u v : V} (hu : u ∈ l) (path : ReflTransGen (Kept g cut) u v) :
    v ∈ l := by
  induction path with
  | refl => exact hu
  | tail _ a ih => exact h.mem_of_kept ih a

theorem ClosedInOrder.irrefl {g : Graph V} {cut : List (V × V)} {l : List V}
    (h : ClosedInOrder g cut l) {v : V} (hv : v ∈ l) : ¬ TransGen (Kept g cut) v v := by
  induction l with
  | nil => exact absurd hv List.not_mem_nil
  | cons x before ih =>
    intro cycle
    by_cases old : v ∈ before
    · exact ih h.2 old cycle
    · obtain rfl := (List.mem_cons.1 hv).resolve_right old
      obtain ⟨w, a, path⟩ := TransGen.head'_iff.1 cycle
      have start : w ∈ before := (h.1 w a.1).resolve_left a.2
      exact old (h.2.mem_of_path start path)

theorem Sound.leftOpen_of_arrow {g : Graph V} {s : Search V} (h : Sound g s)
    (empty : s.stack = []) (ended : s.roots = []) {u v : V} (a : g.Arrow u v)
    (opened : u ∉ s.closed) : LeftOpen g s.cut s.closed u := by
  have known : u ∈ s.entered :=
    (h.covers u (Graph.mem_keys_of_mem_next a)).resolve_left (by simp [ended])
  exact (h.left u known opened).resolve_left (by simp [empty])

/-- A cycle of kept arrows consists of arrows that were never followed. -/
theorem Sound.unfollowed_of_cycle {g : Graph V} {s : Search V} (h : Sound g s)
    (empty : s.stack = []) (ended : s.roots = []) {v : V} (cycle : TransGen (Kept g s.cut) v v) :
    TransGen (fun u w => w ∈ s.unfollowed g u) v v := by
  -- A closed vertex keeps arrows only to vertices closed before it, so none is on the cycle.
  have opened {u : V} (path : ReflTransGen (Kept g s.cut) v u)
      (back : ReflTransGen (Kept g s.cut) u v) : u ∉ s.closed := fun closed =>
    h.inOrder.irrefl closed (.trans_right back (.trans_left cycle path))
  have step {u w : V} (path : ReflTransGen (Kept g s.cut) v u) (a : Kept g s.cut u w)
      (back : ReflTransGen (Kept g s.cut) w v) : w ∈ s.unfollowed g u := by
    have here := opened path (.head a back)
    have left := h.leftOpen_of_arrow empty ended a.1 here
    exact (mem_unfollowed_of_leftOpen left here a).resolve_left (opened (path.tail a) back)
  have walk {w : V} (path : TransGen (Kept g s.cut) v w)
      (back : ReflTransGen (Kept g s.cut) w v) :
      TransGen (fun u w => w ∈ s.unfollowed g u) v w := by
    induction path with
    | single a => exact .single (step .refl a back)
    | tail path a ih => exact (ih (.head a back)).tail (step path.to_reflTransGen a back)
  exact walk cycle .refl

end Search

namespace Graph

theorem breakCycles_of_run_eq_ok {g : Graph V} {missing : Missing} {s : Search V}
    (h : Search.run g missing (.start g) = .ok s) :
    g.breakCycles missing = .ok (s.added.foldl addVertex (g.removeEdges s.cut)) := by
  rw [breakCycles, h]
  rfl

theorem exists_run_of_breakCycles_eq_ok {g h : Graph V} {missing : Missing}
    (hh : g.breakCycles missing = .ok h) : ∃ s, Search.run g missing (.start g) = .ok s := by
  cases hs : Search.run g missing (.start g) with
  | error w =>
    rw [breakCycles, hs] at hh
    cases hh
  | ok s => exact ⟨s, rfl⟩

theorem arrow_breakCycles {g h : Graph V} {missing : Missing} {s : Search V}
    (hs : Search.run g missing (.start g) = .ok s) (hh : g.breakCycles missing = .ok h) :
    h.Arrow = Search.Kept g s.cut := by
  rw [breakCycles_of_run_eq_ok hs, Except.ok.injEq] at hh
  funext u v
  rw [← hh, Arrow, next_foldl_addVertex, next_removeEdges, List.mem_filter, decide_eq_true_eq]
  rfl

theorem arrow_of_arrow_breakCycles {g h : Graph V} {missing : Missing}
    (hh : g.breakCycles missing = .ok h) {u v : V} (a : h.Arrow u v) : g.Arrow u v := by
  obtain ⟨s, hs⟩ := exists_run_of_breakCycles_eq_ok hh
  rw [arrow_breakCycles hs hh] at a
  exact a.1

theorem Acyclic.arrow_breakCycles {g h : Graph V} {missing : Missing} (acyclic : g.Acyclic)
    (hh : g.breakCycles missing = .ok h) : h.Arrow = g.Arrow := by
  obtain ⟨s, hs⟩ := exists_run_of_breakCycles_eq_ok hh
  obtain ⟨sound, _, _⟩ := Search.sound_of_run_eq_ok hs
  have whole : s.cut = [] := List.eq_nil_iff_forall_not_mem.2 fun e mem =>
    acyclic.not_reachesCycle e.1 (sound.cutFrom e mem).2
  funext u v
  simp [Graph.arrow_breakCycles hs hh, Search.Kept, whole]

theorem acyclic_breakCycles_iff {g h : Graph V} {missing : Missing} {s : Search V}
    (hs : Search.run g missing (.start g) = .ok s) (hh : g.breakCycles missing = .ok h) :
    h.Acyclic ↔ ∀ v, ¬ TransGen (fun u w => w ∈ s.unfollowed g u) v v := by
  obtain ⟨sound, empty, ended⟩ := Search.sound_of_run_eq_ok hs
  rw [Acyclic, arrow_breakCycles hs hh]
  refine forall_congr' fun v => not_congr ⟨sound.unfollowed_of_cycle empty ended, ?_⟩
  exact TransGen.mono (fun _ _ => Search.kept_of_mem_unfollowed) v v

/-- The arrows that a search from the rows of a graph never follows. -/
def Unfollowed (g : Graph V) (u v : V) : Prop :=
  ∃ s, Search.run g .added (.start g) = .ok s ∧ v ∈ s.unfollowed g u

theorem exists_breakCycles_added (g : Graph V) : ∃ h, g.breakCycles .added = .ok h ∧
    (h.Acyclic ↔ ∀ v, ¬ TransGen g.Unfollowed v v) := by
  obtain ⟨s, hs⟩ := Search.exists_run_added g (.start g)
  have hh := breakCycles_of_run_eq_ok hs
  have behind : g.Unfollowed = fun u w => w ∈ s.unfollowed g u := by
    funext u v
    simp [Unfollowed, hs]
  refine ⟨_, hh, ?_⟩
  rw [behind]
  exact acyclic_breakCycles_iff hs hh

end Graph

end SheetScript
