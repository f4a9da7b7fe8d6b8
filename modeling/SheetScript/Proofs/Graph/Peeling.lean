import Mathlib.Data.Set.Finite.List
import Mathlib.Order.WellFounded
import SheetScript.Graph.Peeling
import SheetScript.Proofs.Graph.Reverse

/-!
Peeling takes off a vertex from the queue only when nothing that is left leads to it. The degrees
count the rows that are left, so every vertex is queued when the last row that leads to it is gone,
and only what a cycle reaches is never queued. A graph without cycles is taken off completely that
way.
-/

universe u

namespace SheetScript

open Relation

variable {V : Type u} [DecidableEq V]

namespace Graph

/-- How many rows outside `done` lead to a vertex. -/
def outstanding (g : Graph V) (done : List V) (v : V) : Nat :=
  g.keys.countP fun u => u ∉ done ∧ v ∈ g.next u

theorem count_targets (g : Graph V) (v : V) : g.targets.count v = g.outstanding [] v := by
  calc g.targets.count v
      = (g.edges.filter (·.2 = v)).length := by
        rw [← map_snd_edges, List.count, List.countP_map, List.countP_eq_length_filter]
        rfl
    _ = (g.keys.filter fun u => v ∈ g.next u).length := by rw [← filter_edges, List.length_map]
    _ = g.outstanding [] v := by simp [outstanding, List.countP_eq_length_filter]

theorem outstanding_concat (g : Graph V) {done : List V} {u : V} (fresh : u ∉ done) (v : V) :
    g.outstanding (done ++ [u]) v + (g.next u).count v = g.outstanding done v := by
  have other {l : List V} (apart : u ∉ l) :
      l.countP (fun x => x ∉ done ++ [u] ∧ v ∈ g.next x) =
        l.countP fun x => x ∉ done ∧ v ∈ g.next x := by
    refine List.countP_congr fun x mem => ?_
    have ne : x ≠ u := fun eq => apart (eq ▸ mem)
    simp [ne]
  by_cases key : u ∈ g.keys
  · have split := List.perm_cons_erase key
    have apart : u ∉ g.keys.erase u := g.nodup_keys.mem_erase_iff.not.2 (by simp)
    rw [outstanding, outstanding, split.countP_eq, split.countP_eq, List.countP_cons,
      List.countP_cons, other apart, (g.nodup_next u).count]
    simp [fresh]
  · rw [outstanding, other key, next_of_not_mem key]
    rfl

theorem outstanding_eq_zero_iff {g : Graph V} {done : List V} {v : V} :
    g.outstanding done v = 0 ↔ ∀ u, g.Arrow u v → u ∈ done := by
  rw [outstanding, List.countP_eq_zero]
  constructor
  · intro none u a
    by_contra out
    exact none u (mem_keys_of_mem_next a) (by simpa using ⟨out, a⟩)
  · intro all u _ counted
    simp only [decide_eq_true_eq] at counted
    exact counted.1 (all u counted.2)

theorem acc_of_not_reachedByCycle {g : Graph V} {v : V} (h : ¬ g.ReachedByCycle v) :
    Acc g.Arrow v := by
  let Row := {u // u ∈ g.keys ∧ ¬ g.ReachedByCycle u}
  let before (a b : Row) : Prop := TransGen g.Arrow a b
  have finite : Finite Row := g.keys.finite_toSet.subset fun u both => both.1
  have trans : IsTrans _ before := ⟨fun _ _ _ => TransGen.trans⟩
  have irrefl : Std.Irrefl before := ⟨fun a cycle => a.2.2 ⟨a, cycle, .refl⟩⟩
  have row {u w : V} (a : g.Arrow u w) (off : ¬ g.ReachedByCycle w) :
      u ∈ g.keys ∧ ¬ g.ReachedByCycle u :=
    ⟨mem_keys_of_mem_next a, fun reached => off (reached.tail a)⟩
  have rows (r : Row) : Acc g.Arrow r := by
    induction r using (Finite.wellFounded_of_trans_of_irrefl before).induction with
    | _ r ih => exact ⟨_, fun u a => ih ⟨u, row a r.2.2⟩ (.single a)⟩
  exact ⟨_, fun u a => rows ⟨u, row a h⟩⟩

end Graph

namespace Degrees

theorem get_add (d : Degrees V) (v : V) (n : Int) (w : V) :
    (d.add v n).get w = d.get w + if w = v then n else 0 := by
  simp only [get, add, OrderedMap.find?_upsert]
  by_cases h : w = v
  · subst h
    simp
  · simp [h]

theorem get_foldl_add (vs : List V) (d : Degrees V) (n : Int) (w : V) :
    (vs.foldl (fun d v => d.add v n) d).get w = d.get w + n * vs.count w := by
  induction vs generalizing d with
  | nil => simp
  | cons v vs ih =>
    rw [List.foldl_cons, ih, get_add, List.count_cons]
    by_cases h : w = v
    · subst h
      simp [Int.mul_add]
      omega
    · simp [h, Ne.symm h]

theorem get_ofGraph (g : Graph V) (v : V) : (ofGraph g).get v = g.outstanding [] v := by
  rw [ofGraph, get_foldl_add, g.count_targets]
  simp [get]

end Degrees

namespace Peeling

/-- What holds while vertices are taken off the queue, with the arrows to `pending` still to be
taken off. -/
structure Sound (g : Graph V) (cells : OrderedSet V) (pending : List V) (p : Peeling V) : Prop where
  degree : ∀ v, p.degrees.get v = g.outstanding p.output v + pending.count v
  distinct : (p.output ++ p.queue).Nodup
  free : ∀ v ∈ p.output ++ p.queue, p.degrees.get v = 0
  complete : ∀ v, v ∈ cells ∨ v ∈ g.targets → p.degrees.get v = 0 → v ∈ p.output ++ p.queue
  within : ∀ v ∈ p.output ++ p.queue, v ∈ cells ∨ v ∈ g.targets
  settled : g.reverse.Settled p.output

section

variable {g : Graph V} {cells : OrderedSet V} {p : Peeling V}

theorem sound_start (g : Graph V) (cells : OrderedSet V) : Sound g cells [] (start g cells) where
  degree v := by simp [start, Degrees.get_ofGraph]
  distinct := by simpa [start] using cells.nodup.filter _
  free := by simp [start]
  complete v known zero := by
    rcases known with cell | target
    · simpa [start, cell] using zero
    · have some : 0 < g.targets.count v := List.count_pos_iff.2 target
      rw [start, Degrees.get_ofGraph, ← g.count_targets] at zero
      omega
  within v mem := by
    simp only [start, List.nil_append, List.mem_filter] at mem
    exact .inl mem.1
  settled := .nil

theorem output_append_queue_relax (p : Peeling V) (w : V) :
    (p.relax w).output ++ (p.relax w).queue =
      if p.degrees.get w = 1 then p.output ++ p.queue ++ [w] else p.output ++ p.queue := by
  have last : (p.degrees.add w (-1)).get w = 0 ↔ p.degrees.get w = 1 := by
    rw [Degrees.get_add, if_pos rfl]
    omega
  by_cases one : p.degrees.get w = 1 <;> simp [Peeling.relax, last, one]

theorem mem_output_append_queue_relax {v w : V} :
    v ∈ (p.relax w).output ++ (p.relax w).queue ↔
      v ∈ p.output ++ p.queue ∨ p.degrees.get w = 1 ∧ v = w := by
  rw [output_append_queue_relax]
  split
  · rename_i one
    rw [List.mem_append, List.mem_singleton, and_iff_right one]
  · rename_i more
    simp [more]

theorem Sound.relax {w : V} {pending : List V} (h : Sound g cells (w :: pending) p)
    (target : w ∈ g.targets) : Sound g cells pending (p.relax w) := by
  have positive : 0 < p.degrees.get w := by
    rw [h.degree w, List.count_cons_self]
    omega
  have new : w ∉ p.output ++ p.queue := fun mem => absurd (h.free w mem) positive.ne'
  have degree (v : V) : (p.relax w).degrees.get v = p.degrees.get v + if v = w then -1 else 0 :=
    Degrees.get_add _ _ _ _
  constructor
  case degree =>
    intro v
    have before := h.degree v
    rw [List.count_cons] at before
    rw [degree, before]
    by_cases eq : v = w
    · subst eq
      simp [Peeling.relax]
      omega
    · simp [Peeling.relax, eq, Ne.symm eq]
  case distinct =>
    rw [output_append_queue_relax]
    split
    · exact OrderedSet.nodup_snoc h.distinct new
    · exact h.distinct
  case free =>
    intro v mem
    rw [degree]
    rcases mem_output_append_queue_relax.1 mem with old | ⟨one, rfl⟩
    · have ne : v ≠ w := fun eq => new (eq ▸ old)
      rw [if_neg ne, h.free v old, Int.add_zero]
    · rw [if_pos rfl, one]
      rfl
  case complete =>
    intro v known zero
    rw [degree] at zero
    refine mem_output_append_queue_relax.2 ?_
    by_cases eq : v = w
    · subst eq
      rw [if_pos rfl] at zero
      exact .inr ⟨by omega, rfl⟩
    · rw [if_neg eq, Int.add_zero] at zero
      exact .inl (h.complete v known zero)
  case within =>
    intro v mem
    rcases mem_output_append_queue_relax.1 mem with old | ⟨_, rfl⟩
    · exact h.within v old
    · exact .inr target
  case settled => exact h.settled

theorem Sound.foldl_relax {pending : List V} (h : Sound g cells pending p)
    (targets : ∀ w ∈ pending, w ∈ g.targets) :
    Sound g cells [] (pending.foldl Peeling.relax p) := by
  induction pending generalizing p with
  | nil => exact h
  | cons w pending ih =>
    obtain ⟨here, later⟩ := List.forall_mem_cons.1 targets
    exact ih (h.relax here) later

theorem Sound.mem_output_of_arrow (h : Sound g cells [] p) {v : V} (free : p.degrees.get v = 0)
    {u : V} (a : g.Arrow u v) : u ∈ p.output := by
  have none : g.outstanding p.output v = 0 := by
    have count := h.degree v
    simp only [List.count_nil] at count
    omega
  exact Graph.outstanding_eq_zero_iff.1 none u a

theorem Sound.takeFirst {v : V} {queue : List V} (h : Sound g cells [] p)
    (hq : p.queue = v :: queue) : Sound g cells [] (p.takeFirst g v queue) := by
  have waiting : v ∈ p.output ++ p.queue := by simp [hq]
  have same : p.output ++ [v] ++ queue = p.output ++ p.queue := by simp [hq]
  have fresh : v ∉ p.output := fun mem =>
    (List.nodup_append.1 h.distinct).2.2 v mem v (by simp [hq]) rfl
  have targets : ∀ w ∈ g.next v, w ∈ g.targets := fun w mem => Graph.mem_targets.2 ⟨v, mem⟩
  -- The row of the vertex no longer counts, and its ends are what is still to be relaxed.
  refine Sound.foldl_relax ?_ targets
  constructor
  case degree =>
    intro w
    have before := h.degree w
    have split := g.outstanding_concat fresh w
    simp only [List.count_nil] at before ⊢
    omega
  case distinct => exact same ▸ h.distinct
  case free => exact same ▸ h.free
  case complete => exact same ▸ h.complete
  case within => exact same ▸ h.within
  case settled =>
    refine h.settled.snoc fresh fun u mem => ?_
    exact h.mem_output_of_arrow (h.free v waiting) (Graph.arrow_reverse.1 mem)

theorem Sound.drain (h : Sound g cells [] p) :
    Sound g cells [] (p.drain g) ∧ (p.drain g).queue = [] := by
  fun_induction Peeling.drain g p with
  | case1 p empty => exact ⟨h, empty⟩
  | case2 p v queue waiting ih => exact ih (h.takeFirst waiting)

theorem Sound.not_reachedByCycle (h : Sound g cells [] p) {v : V} (mem : v ∈ p.output) :
    ¬ g.ReachedByCycle v :=
  Graph.reachesCycle_reverse.not.1 (h.settled.not_reachesCycle mem)

theorem Sound.mem_output (h : Sound g cells [] p) (empty : p.queue = [])
    (keys : ∀ v ∈ g.keys, v ∈ cells) {v : V} (known : v ∈ cells ∨ v ∈ g.targets)
    (off : ¬ g.ReachedByCycle v) : v ∈ p.output := by
  induction Graph.acc_of_not_reachedByCycle off with
  | intro v _ ih =>
  have before (u : V) (a : g.Arrow u v) : u ∈ p.output :=
    ih u a (.inl (keys u (Graph.mem_keys_of_mem_next a))) fun reached => off (reached.tail a)
  have free : p.degrees.get v = 0 := by
    rw [h.degree v, Graph.outstanding_eq_zero_iff.2 before]
    rfl
  simpa [empty] using h.complete v known free

end

theorem exists_output_takeRest (g : Graph V) (p : Peeling V) (rest : List V) :
    ∃ l : List V, l.Perm rest ∧ (p.takeRest g rest).output = p.output ++ l := by
  fun_induction takeRest g p rest with
  | case1 p => exact ⟨[], .nil, (List.append_nil _).symm⟩
  | case2 p v rest w ih =>
    obtain ⟨l, perm, output⟩ := ih
    refine ⟨w :: l, (perm.cons w).trans (List.perm_cons_erase (least_mem _ _ _)).symm, ?_⟩
    rw [output, takeAny, List.append_assoc, List.singleton_append]

end Peeling

namespace Graph

variable {g : Graph V} {cells : OrderedSet V}

def front (g : Graph V) (cells : OrderedSet V) : List V := ((Peeling.start g cells).drain g).output

theorem exists_peel_eq (g : Graph V) (cells : OrderedSet V) :
    ∃ rest, rest.Perm (cells.toList.filter (· ∉ g.front cells)) ∧
      g.peel cells = g.front cells ++ rest :=
  Peeling.exists_output_takeRest g ((Peeling.start g cells).drain g) _

theorem mem_peel {v : V} : v ∈ g.peel cells ↔ v ∈ g.front cells ∨ v ∈ cells := by
  obtain ⟨rest, perm, eq⟩ := exists_peel_eq g cells
  have left : v ∈ rest ↔ v ∈ cells ∧ v ∉ g.front cells := by
    rw [perm.mem_iff, List.mem_filter, decide_eq_true_eq, OrderedSet.mem_toList]
  rw [eq, List.mem_append, left]
  tauto

theorem settled_front (g : Graph V) (cells : OrderedSet V) :
    g.reverse.Settled (g.front cells) :=
  (Peeling.sound_start g cells).drain.1.settled

theorem nodup_peel (g : Graph V) (cells : OrderedSet V) : (g.peel cells).Nodup := by
  obtain ⟨rest, perm, eq⟩ := exists_peel_eq g cells
  rw [eq]
  refine (settled_front g cells).nodup.append (perm.nodup_iff.2 (cells.nodup.filter _)) ?_
  intro v mem left
  simpa [mem] using (List.mem_filter.1 (perm.mem_iff.1 left)).2

theorem mem_cells_or_targets_of_mem_front {v : V} (mem : v ∈ g.front cells) :
    v ∈ cells ∨ v ∈ g.targets :=
  (Peeling.sound_start g cells).drain.1.within v (List.mem_append_left _ mem)

theorem mem_front_iff (keys : ∀ v ∈ g.keys, v ∈ cells) {v : V} :
    v ∈ g.front cells ↔ (v ∈ cells ∨ v ∈ g.targets) ∧ ¬ g.ReachedByCycle v := by
  obtain ⟨sound, empty⟩ := (Peeling.sound_start g cells).drain
  constructor
  · exact fun mem => ⟨mem_cells_or_targets_of_mem_front mem, sound.not_reachedByCycle mem⟩
  · exact fun both => sound.mem_output empty keys both.1 both.2

theorem peel_eq_front (acyclic : g.Acyclic) (keys : ∀ v ∈ g.keys, v ∈ cells) :
    g.peel cells = g.front cells := by
  obtain ⟨rest, perm, eq⟩ := exists_peel_eq g cells
  have none : cells.toList.filter (· ∉ g.front cells) = [] :=
    List.filter_eq_nil_iff.2 fun v mem => by
      simpa using (mem_front_iff keys).2 ⟨.inl mem, acyclic.not_reachedByCycle v⟩
  rw [none] at perm
  rw [eq, perm.eq_nil, List.append_nil]

theorem mem_peel_iff (acyclic : g.Acyclic) (keys : ∀ v ∈ g.keys, v ∈ cells) {v : V} :
    v ∈ g.peel cells ↔ v ∈ cells ∨ v ∈ g.targets := by
  rw [peel_eq_front acyclic keys, mem_front_iff keys,
    and_iff_left (acyclic.not_reachedByCycle v)]

theorem settled_reverse_peel (acyclic : g.Acyclic) (keys : ∀ v ∈ g.keys, v ∈ cells) :
    g.Settled (g.peel cells).reverse := by
  refine Settled.reverse (peel_eq_front acyclic keys ▸ settled_front g cells) fun u _ v a => ?_
  exact (mem_peel_iff acyclic keys).2 (.inr (mem_targets.2 ⟨u, a⟩))

end Graph

end SheetScript
