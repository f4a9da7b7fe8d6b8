import SheetScript.Graph.Basic

/-!
An order of vertices by counting the arrows that lead to each. Vertices to which no arrow leads
are taken off first, together with their own arrows; then, as long as some are left, one with the
fewest.
-/

universe u

namespace SheetScript

abbrev Degrees (V : Type u) := OrderedMap V Int

namespace Degrees

variable {V : Type u} [DecidableEq V]

def get (d : Degrees V) (v : V) : Int := (d.find? v).getD 0

def add (d : Degrees V) (v : V) (n : Int) : Degrees V := d.upsert v fun x => x.getD 0 + n

def ofGraph (g : Graph V) : Degrees V :=
  g.targets.foldl (fun d v => d.add v 1) OrderedMap.empty

def positive (d : Degrees V) : Nat := d.entries.countP fun e => 0 < e.2

theorem countP_lower_le (w : V) (l : List (V × Int)) :
    (l.map fun e => (e.1, if e.1 = w then e.2 + -1 else e.2)).countP (fun e => 0 < e.2) ≤
      l.countP fun e => 0 < e.2 := by
  rw [List.countP_map]
  refine List.countP_mono_left fun e _ pos => ?_
  simp only [Function.comp_apply, decide_eq_true_eq] at pos ⊢
  split at pos <;> omega

theorem positive_add_le (d : Degrees V) (w : V) :
    (d.add w (-1)).positive + (if (d.add w (-1)).get w = 0 then 1 else 0) ≤ d.positive := by
  obtain ⟨entries, distinct⟩ := d
  simp only [positive, get, add, OrderedMap.upsert, OrderedMap.keys]
  split
  · rename_i known
    simp only [OrderedMap.mapValues, OrderedMap.find?, Option.getD_some]
    clear distinct
    induction entries with
    | nil => simp at known
    | cons e entries ih =>
      by_cases h : e.1 = w
      · have later := countP_lower_le w entries
        simp only [List.map_cons, h, List.countP_cons, List.find?_cons_of_pos, decide_true,
          if_true, decide_eq_true_eq, Option.map_some, Option.getD_some]
        grind
      · have later := ih (by simpa [Ne.symm h] using known)
        simp [h, List.countP_cons] at later ⊢
        omega
  · rename_i fresh
    have absent : entries.find? (fun e => e.1 = w) = none := by
      refine List.find?_eq_none.2 fun e mem same => fresh ?_
      exact List.mem_map.2 ⟨e, mem, of_decide_eq_true same⟩
    simp [OrderedMap.snoc, OrderedMap.find?, absent]

end Degrees

structure Peeling (V : Type u) where
  degrees : Degrees V
  output : List V
  queue : List V

namespace Peeling

variable {V : Type u} [DecidableEq V]

def start (g : Graph V) (cells : OrderedSet V) : Peeling V :=
  let degrees := Degrees.ofGraph g
  { degrees
    output := []
    queue := cells.toList.filter fun v => degrees.get v = 0 }

def relax (p : Peeling V) (w : V) : Peeling V :=
  let degrees := p.degrees.add w (-1)
  { p with
    degrees
    queue := if degrees.get w = 0 then p.queue ++ [w] else p.queue }

def takeFirst (g : Graph V) (p : Peeling V) (v : V) (queue : List V) : Peeling V :=
  (g.next v).foldl relax { p with output := p.output ++ [v], queue }

/-- What is queued and what can still be queued: a degree only ever falls, so it reaches zero at
most once. -/
def load (p : Peeling V) : Nat := p.queue.length + p.degrees.positive

theorem load_relax_le (p : Peeling V) (w : V) : (p.relax w).load ≤ p.load := by
  have bound := p.degrees.positive_add_le w
  simp only [load, relax]
  split at bound
  · rename_i zero
    rw [if_pos zero, List.length_append, List.length_singleton]
    omega
  · rename_i other
    rw [if_neg other]
    omega

theorem load_foldl_relax_le (ws : List V) (p : Peeling V) : (ws.foldl relax p).load ≤ p.load := by
  induction ws generalizing p with
  | nil => exact Nat.le_refl _
  | cons w ws ih => exact Nat.le_trans (ih _) (load_relax_le p w)

theorem load_takeFirst_lt (g : Graph V) {p : Peeling V} {v : V} {queue : List V}
    (h : p.queue = v :: queue) : (p.takeFirst g v queue).load < p.load := by
  have bound := load_foldl_relax_le (g.next v) { p with output := p.output ++ [v], queue }
  simp only [load] at bound ⊢
  rw [h, List.length_cons]
  exact Nat.lt_of_le_of_lt bound (by omega)

def drain (g : Graph V) (p : Peeling V) : Peeling V :=
  match _h : p.queue with
  | [] => p
  | v :: queue => drain g (p.takeFirst g v queue)
termination_by p.load
decreasing_by exact load_takeFirst_lt g _h

def least (degrees : Degrees V) : V → List V → V
  | v, [] => v
  | v, w :: ws => least degrees (if degrees.get w < degrees.get v then w else v) ws

theorem least_mem (degrees : Degrees V) (v : V) (ws : List V) : least degrees v ws ∈ v :: ws := by
  induction ws generalizing v with
  | nil => simp [least]
  | cons w ws ih =>
    rw [least]
    refine List.mem_cons.2 ((List.mem_cons.1 (ih _)).elim (fun e => ?_) fun m => .inr (.tail _ m))
    rw [e]
    split
    · exact .inr (.head _)
    · exact .inl rfl

def takeAny (g : Graph V) (p : Peeling V) (v : V) : Peeling V :=
  { p with
    degrees := (g.next v).foldl (fun d w => d.add w (-1)) p.degrees
    output := p.output ++ [v] }

/-- Takes off all of `rest`, each time the first with the least degree. -/
def takeRest (g : Graph V) (p : Peeling V) : List V → Peeling V
  | [] => p
  | v :: rest =>
    let w := least p.degrees v rest
    takeRest g (p.takeAny g w) ((v :: rest).erase w)
termination_by rest => rest.length
decreasing_by
  rw [List.length_erase_of_mem (least_mem p.degrees v rest)]
  simp

end Peeling

def Graph.peel {V : Type u} [DecidableEq V] (g : Graph V) (cells : OrderedSet V) : List V :=
  let p := (Peeling.start g cells).drain g
  (p.takeRest g (cells.toList.filter (· ∉ p.output))).output

end SheetScript
