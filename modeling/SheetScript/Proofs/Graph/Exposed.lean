import Mathlib.Order.Lattice.Nat
import SheetScript.Proofs.Graph.OffCycle
import SheetScript.Proofs.Graph.Reordering

/-!
The arrows on no cycle that breaking cycles can cut: those whose end reaches a cycle. Whether one
of them is cut depends on the order of rows and arrows, and for each there is an order in which it
is. The search first follows a cycle up to the vertex where it closes, which it then leaves open;
after that it takes the vertices on the way to that cycle from the near end to the far one and
leaves each of them at once.
-/

universe u

namespace SheetScript

open Relation

theorem not_sublist_swap {α : Type u} {x y : α} {l : List α} (distinct : l.Nodup)
    (there : [x, y].Sublist l) : ¬ [y, x].Sublist l := by
  intro back
  induction l with
  | nil => cases there
  | cons a l ih =>
    obtain ⟨fresh, distinct⟩ := List.nodup_cons.1 distinct
    cases there with
    | cons _ there =>
      cases back with
      | cons _ back => exact ih distinct there back
      | cons_cons _ back => exact fresh (there.subset (a := y) (by simp))
    | cons_cons _ there =>
      cases back with
      | cons _ back => exact fresh (back.subset (a := x) (by simp))
      | cons_cons _ back => exact fresh (List.singleton_sublist.1 back)

variable {V : Type u} [DecidableEq V]

namespace Search

theorem step_eq_of_move {g : Graph V} {s s' : Search V} (sound : Sound g s) (move : Move g s s') :
    step g .added s = .ok s' ∧ s.finished = false := by
  cases move with
  | knownRoot known => simp [step, finished, known]
  | @newRoot v roots entered closed cut added fresh =>
    by_cases key : v ∈ g.keys <;> simp [step, enter, finished, fresh, key]
  | close => simp [step, finished]
  | pass closed => simp [step, finished, closed]
  | leave opened known => simp [step, finished, opened, known]
  | @descend v w ws roots stack entered closed cut added fresh =>
    have opened : w ∉ closed := fun mem => fresh (sound.closedEntered w mem)
    by_cases key : w ∈ g.keys <;> simp [step, enter, finished, opened, fresh, key]

theorem run_eq_of_move {g : Graph V} {s s' : Search V} (sound : Sound g s) (move : Move g s s') :
    run g .added s = run g .added s' := by
  obtain ⟨stepped, going⟩ := step_eq_of_move sound move
  rw [run, dif_neg (by simp [going])]
  split
  · rename_i failed
    cases stepped.symm.trans failed
  · rename_i next
    cases stepped.symm.trans next
    rfl

theorem Sound.moves {g : Graph V} {s t : Search V} (sound : Sound g s)
    (moves : ReflTransGen (Move g) s t) : Sound g t ∧ run g .added s = run g .added t := by
  induction moves with
  | refl => exact ⟨sound, rfl⟩
  | tail _ move ih => exact ⟨ih.1.move move, ih.2.trans (run_eq_of_move ih.1 move)⟩

/-- Arrows that were followed to their end lead to closed vertices or to vertices that were entered
later. -/
structure InTime (g : Graph V) (s : Search V) : Prop where
  distinct : s.entered.Nodup
  closed : ∀ v ∈ s.closed, ∀ w, g.Arrow v w → w ∈ s.closed ∨ [w, v].Sublist s.entered
  stack : ∀ f ∈ s.stack, f.1 ∈ s.entered ∧
    ∀ w, g.Arrow f.1 w → w ∈ f.2 ∨ w ∈ s.closed ∨ [w, f.1].Sublist s.entered

theorem inTime_start (g : Graph V) : InTime g (start g) :=
  ⟨.nil, by simp [start], by simp [start]⟩

theorem InTime.enter {g : Graph V} {s : Search V} (h : InTime g s) {v : V} (fresh : v ∉ s.entered)
    {roots added : List V} {below : List (V × List V)}
    (hbelow : ∀ f ∈ below, f.1 ∈ s.entered ∧
      ∀ w, g.Arrow f.1 w → w ∈ f.2 ∨ w ∈ s.closed ∨ [w, f.1].Sublist (v :: s.entered)) :
    InTime g ⟨roots, (v, g.next v) :: below, v :: s.entered, s.closed, s.cut, added⟩ where
  distinct := List.nodup_cons.2 ⟨fresh, h.distinct⟩
  closed x mem w a := (h.closed x mem w a).imp_right fun later => later.cons v
  stack := by
    refine List.forall_mem_cons.2 ⟨⟨List.mem_cons_self, fun w a => .inl a⟩, ?_⟩
    exact fun f mem => ⟨.tail _ (hbelow f mem).1, (hbelow f mem).2⟩

theorem InTime.move {g : Graph V} {s s' : Search V} (h : InTime g s) (move : Move g s s') :
    InTime g s' := by
  cases move with
  | knownRoot _ => exact ⟨h.distinct, h.closed, h.stack⟩
  | newRoot fresh => exact h.enter fresh (by simp)
  | close =>
    obtain ⟨⟨known, top⟩, below⟩ := List.forall_mem_cons.1 h.stack
    refine ⟨h.distinct, List.forall_mem_cons.2 ⟨fun w a => ?_, fun x mem w a => ?_⟩, ?_⟩
    · exact ((top w a).resolve_left List.not_mem_nil).imp_left fun c => .tail _ c
    · exact (h.closed x mem w a).imp_left fun c => .tail _ c
    · intro f mem
      refine ⟨(below f mem).1, fun w a => ((below f mem).2 w a).imp_right fun later => ?_⟩
      exact later.imp_left fun c => .tail _ c
  | pass done =>
    obtain ⟨⟨known, top⟩, below⟩ := List.forall_mem_cons.1 h.stack
    refine ⟨h.distinct, h.closed, List.forall_mem_cons.2 ⟨⟨known, fun x a => ?_⟩, below⟩⟩
    rcases top x a with mem | later
    · rcases List.mem_cons.1 mem with rfl | mem
      · exact .inr (.inl done)
      · exact .inl mem
    · exact .inr later
  | leave _ _ => exact ⟨h.distinct, h.closed, (List.forall_mem_cons.1 h.stack).2⟩
  | descend fresh =>
    obtain ⟨⟨known, top⟩, below⟩ := List.forall_mem_cons.1 h.stack
    refine h.enter fresh (List.forall_mem_cons.2 ⟨⟨known, fun x a => ?_⟩, fun f mem => ?_⟩)
    · rcases top x a with mem | later
      · rcases List.mem_cons.1 mem with rfl | mem
        · exact .inr (.inr (.cons_cons _ (List.singleton_sublist.2 known)))
        · exact .inl mem
      · exact .inr (later.imp_right fun l => l.cons _)
    · refine ⟨(below f mem).1, fun w a => ((below f mem).2 w a).imp_right fun later => ?_⟩
      exact later.imp_right fun l => l.cons _

theorem InTime.moves {g : Graph V} {s t : Search V} (h : InTime g s)
    (moves : ReflTransGen (Move g) s t) : InTime g t := by
  induction moves with
  | refl => exact h
  | tail _ move ih => exact ih.move move

theorem InTime.not_mem_closed {g : Graph V} {s : Search V} (h : InTime g s) {x y : V}
    (a : g.Arrow x y) (opened : y ∉ s.closed) (before : [x, y].Sublist s.entered) :
    x ∉ s.closed := by
  intro closed
  have after := (h.closed x closed y a).resolve_left opened
  exact not_sublist_swap h.distinct before after

/-- As long as `y` is not entered, nothing is searched that reaches `x`. -/
structure Ahead (g : Graph V) (x y : V) (s : Search V) : Prop where
  order : x ∈ s.entered → [x, y].Sublist s.entered
  waiting : y ∈ s.entered ∨
    (∃ before after, s.roots = before ++ y :: after ∧ ∀ r ∈ before, ¬ g.Reaches r x) ∧
      ∀ f ∈ s.stack, ¬ g.Reaches f.1 x ∧ ∀ w ∈ f.2, g.Arrow f.1 w

section Ahead

variable {g : Graph V} {x y : V}

theorem Ahead.enter {s : Search V} (h : Ahead g x y s) {v : V} {roots added : List V}
    {stack : List (V × List V)}
    (waiting : y ∈ s.entered ∨ y = v ∧ y ≠ x ∨ v ≠ x ∧
      (∃ before after, roots = before ++ y :: after ∧ ∀ r ∈ before, ¬ g.Reaches r x) ∧
        ∀ f ∈ stack, ¬ g.Reaches f.1 x ∧ ∀ w ∈ f.2, g.Arrow f.1 w) :
    Ahead g x y ⟨roots, stack, v :: s.entered, s.closed, s.cut, added⟩ := by
  constructor
  · intro mem
    rcases List.mem_cons.1 mem with rfl | mem
    · refine .cons_cons _ (List.singleton_sublist.2 ?_)
      rcases waiting with known | ⟨rfl, ne⟩ | ⟨ne, _⟩
      · exact known
      · exact absurd rfl ne
      · exact absurd rfl ne
    · exact (h.order mem).cons v
  · rcases waiting with known | ⟨rfl, _⟩ | ⟨_, later⟩
    · exact .inl (.tail _ known)
    · exact .inl List.mem_cons_self
    · exact .inr later

theorem Ahead.move {s s' : Search V} (distinct : y ≠ x) (h : Ahead g x y s)
    (move : Move g s s') : Ahead g x y s' := by
  cases move with
  | @knownRoot v roots entered closed cut added known =>
    refine ⟨h.order, ?_⟩
    rcases h.waiting with done | ⟨⟨before, after, split, clear⟩, stack⟩
    · exact .inl done
    · cases before with
      | nil =>
        obtain ⟨rfl, _⟩ := List.cons.inj split
        exact .inl known
      | cons r before =>
        obtain ⟨rfl, rfl⟩ := List.cons.inj split
        exact .inr ⟨⟨before, after, rfl, fun r mem => clear r (.tail _ mem)⟩, stack⟩
  | @newRoot v roots entered closed cut added fresh =>
    refine h.enter ?_
    rcases h.waiting with done | ⟨⟨before, after, split, clear⟩, _⟩
    · exact .inl done
    · cases before with
      | nil =>
        obtain ⟨rfl, _⟩ := List.cons.inj split
        exact .inr (.inl ⟨rfl, distinct⟩)
      | cons r before =>
        obtain ⟨rfl, rfl⟩ := List.cons.inj split
        have here := clear v List.mem_cons_self
        refine .inr (.inr ⟨fun eq => here (eq ▸ .refl), ⟨before, after, rfl, ?_⟩, ?_⟩)
        · exact fun r mem => clear r (.tail _ mem)
        · exact List.forall_mem_singleton.2 ⟨here, fun w mem => mem⟩
  | close => exact ⟨h.order, h.waiting.imp_right fun w => ⟨w.1, (List.forall_mem_cons.1 w.2).2⟩⟩
  | pass _ =>
    refine ⟨h.order, h.waiting.imp_right fun later => ⟨later.1, ?_⟩⟩
    obtain ⟨⟨here, arrows⟩, below⟩ := List.forall_mem_cons.1 later.2
    exact List.forall_mem_cons.2 ⟨⟨here, fun w mem => arrows w (.tail _ mem)⟩, below⟩
  | leave _ _ => exact ⟨h.order, h.waiting.imp_right fun w => ⟨w.1, (List.forall_mem_cons.1 w.2).2⟩⟩
  | @descend v w ws roots stack entered closed cut added fresh =>
    refine h.enter ?_
    rcases h.waiting with done | ⟨roots, stack⟩
    · exact .inl done
    · obtain ⟨⟨here, arrows⟩, below⟩ := List.forall_mem_cons.1 stack
      have there : ¬ g.Reaches w x := fun path => here (path.head (arrows w List.mem_cons_self))
      refine .inr (.inr ⟨fun eq => there (eq ▸ .refl), roots, ?_⟩)
      refine List.forall_mem_cons.2 ⟨⟨there, fun w mem => mem⟩, List.forall_mem_cons.2 ⟨?_, below⟩⟩
      exact ⟨here, fun w mem => arrows w (.tail _ mem)⟩

end Ahead

theorem Abandoned.of_arrow {g : Graph V} {s t : Search V} {x y : V} (gone : s.Abandoned y)
    (a : g.Arrow x y) (ne : y ≠ x) (inTime : InTime g t) (ahead : Ahead g x y t)
    (whole : run g .added (start g) = .ok s) (rest : run g .added t = .ok s) :
    s.Abandoned x := by
  obtain ⟨sound, empty, ended⟩ := sound_of_run_eq_ok whole
  obtain ⟨⟨inTime, ahead⟩, _⟩ := run_induction (P := fun s => InTime g s ∧ Ahead g x y s)
    (fun _ _ inv move => ⟨inv.1.move move, inv.2.move ne move⟩) ⟨inTime, ahead⟩ rest
  have known : x ∈ s.entered :=
    (sound.covers x (Graph.mem_keys_of_mem_next a)).resolve_left (by simp [ended])
  exact ⟨known, inTime.not_mem_closed a gone.2.1 (ahead.order known), by simp [empty]⟩

/-- A search that comes to `z` goes down to `c` by the first arrow of each vertex, and leaves `c`
because the first arrow of `c` leads back to `d`. -/
theorem exists_moves_abandoned {g : Graph V} {c d : V} {far : V → Nat}
    (closer : ∀ z, z ≠ c → g.Reaches d z → g.Reaches z c →
      ∃ w ws, g.next z = w :: ws ∧ g.Reaches w c ∧ far w < far z)
    (back : ∃ ws, g.next c = d :: ws) (z : V) (roots entered added : List V) (cut : List (V × V))
    (stack : List (V × List V)) (known : d ∈ z :: entered) (nearer : ∀ x ∈ entered, far z < far x)
    (between : ∀ x ∈ z :: entered, g.Reaches d x ∧ g.Reaches x c)
    (frames : ∀ f ∈ stack, f.1 ∈ entered ∧ ∀ w ∈ f.2, g.Arrow f.1 w) :
    ∃ t, ReflTransGen (Move g) ⟨roots, (z, g.next z) :: stack, z :: entered, [], cut, added⟩ t ∧
      t.roots = roots ∧ t.Abandoned c ∧ (∀ x ∈ t.entered, g.Reaches d x ∧ g.Reaches x c) ∧
      ∀ f ∈ t.stack, f.1 ∈ t.entered ∧ ∀ w ∈ f.2, g.Arrow f.1 w := by
  -- By induction on the distance to `c`, which the first arrow of each vertex shortens.
  induction hn : far z using Nat.strong_induction_on generalizing z entered added cut stack with
  | _ n ih =>
  subst hn
  by_cases arrived : z = c
  · subst arrived
    obtain ⟨ws, row⟩ := back
    rw [row]
    refine ⟨_, .single (.leave List.not_mem_nil known), rfl,
      ⟨List.mem_cons_self, List.not_mem_nil, fun on => ?_⟩, between, ?_⟩
    · obtain ⟨f, mem, rfl⟩ := List.mem_map.1 on
      exact Nat.lt_irrefl _ (nearer f.1 (frames f mem).1)
    · exact fun f mem => ⟨.tail _ (frames f mem).1, (frames f mem).2⟩
  · obtain ⟨there, path⟩ := between z List.mem_cons_self
    obtain ⟨w, ws, row, onward, less⟩ := closer z arrived there path
    have beyond : ∀ x ∈ z :: entered, far w < far x :=
      List.forall_mem_cons.2 ⟨less, fun x mem => less.trans (nearer x mem)⟩
    have fresh : w ∉ z :: entered := fun mem => Nat.lt_irrefl _ (beyond w mem)
    have arrows : ∀ x ∈ w :: ws, g.Arrow z x := fun x mem => by rwa [Graph.Arrow, row]
    obtain ⟨t, moves, rest⟩ := ih (far w) less w (z :: entered) _ cut ((z, ws) :: stack)
      (.tail _ known) beyond
      (List.forall_mem_cons.2 ⟨⟨there.tail (arrows w List.mem_cons_self), onward⟩, between⟩)
      (List.forall_mem_cons.2 ⟨⟨List.mem_cons_self, fun x mem => arrows x (.tail _ mem)⟩,
        fun f mem => ⟨.tail _ (frames f mem).1, (frames f mem).2⟩⟩) rfl
    rw [row]
    exact ⟨t, moves.head (.descend fresh), rest⟩

end Search

namespace Graph

variable {g : Graph V}

def Within (g : Graph V) (c : V) : Nat → V → Prop
  | 0, z => z = c
  | n + 1, z => ∃ w, g.Arrow z w ∧ g.Within c n w

theorem exists_within {c z : V} (path : g.Reaches z c) : ∃ n, g.Within c n z := by
  induction path using ReflTransGen.head_induction_on with
  | refl => exact ⟨0, rfl⟩
  | head a _ ih =>
    obtain ⟨n, within⟩ := ih
    exact ⟨n + 1, _, a, within⟩

theorem Within.reaches {c z : V} {n : Nat} (h : g.Within c n z) : g.Reaches z c := by
  induction n generalizing z with
  | zero => exact h ▸ .refl
  | succ n ih =>
    obtain ⟨w, a, rest⟩ := h
    exact .head a (ih rest)

theorem exists_far (g : Graph V) (c : V) : ∃ far : V → Nat, ∀ z, z ≠ c → g.Reaches z c →
    far c < far z ∧ ∃ w, g.Arrow z w ∧ g.Reaches w c ∧ far w < far z := by
  refine ⟨fun z => sInf {n | g.Within c n z}, fun z ne path => ?_⟩
  dsimp only
  have zero : sInf {n | g.Within c n c} = 0 := Nat.sInf_eq_zero.2 (.inl rfl)
  have least : g.Within c (sInf {n | g.Within c n z}) z := Nat.sInf_mem (exists_within path)
  cases hn : sInf {n | g.Within c n z} with
  | zero =>
    rw [hn] at least
    exact absurd least ne
  | succ n =>
    rw [hn] at least
    obtain ⟨w, a, rest⟩ := least
    have le : sInf {n | g.Within c n w} ≤ n := Nat.sInf_le rest
    exact ⟨by omega, w, a, rest.reaches, by omega⟩

/-- A way that leads to the vertex `c` of a cycle, in reverse: no vertex of `chain` lies on a cycle,
and each has an arrow to the one before it. The cycle goes on from `c` to `d`. -/
structure Approach (g : Graph V) (c d : V) (chain : List V) : Prop where
  back : g.Arrow c d
  path : g.Reaches d c
  off : ∀ x ∈ chain, ¬ TransGen g.Arrow x x
  links : (c :: chain).IsChain (fun y x => g.Arrow x y)

theorem exists_approach {v : V} (h : g.ReachesCycle v) : ∃ c d chain, g.Approach c d chain ∧
    (c :: chain).getLast? = some v ∧ (g.Arrow c c → d = c) := by
  have near {c : V} (cycle : TransGen g.Arrow c c) :
      ∃ d, g.Arrow c d ∧ g.Reaches d c ∧ (g.Arrow c c → d = c) := by
    by_cases loop : g.Arrow c c
    · exact ⟨c, loop, .refl, fun _ => rfl⟩
    · obtain ⟨d, a, path⟩ := TransGen.head'_iff.1 cycle
      exact ⟨d, a, path, fun a => absurd a loop⟩
  obtain ⟨e, path, cycle⟩ := h
  induction path using ReflTransGen.head_induction_on with
  | refl =>
    obtain ⟨d, a, path, loop⟩ := near cycle
    exact ⟨e, d, [], ⟨a, path, by simp, by simp⟩, rfl, loop⟩
  | @head z w a _ ih =>
    by_cases here : TransGen g.Arrow z z
    · obtain ⟨d, a, path, loop⟩ := near here
      exact ⟨z, d, [], ⟨a, path, by simp, by simp⟩, rfl, loop⟩
    · obtain ⟨c, d, chain, way, last, loop⟩ := ih
      refine ⟨c, d, chain ++ [z], ⟨way.back, way.path, ?_, ?_⟩, ?_, loop⟩
      · exact List.forall_mem_append.2 ⟨way.off, List.forall_mem_singleton.2 here⟩
      · rw [← List.cons_append, List.isChain_append]
        refine ⟨way.links, by simp, fun x hx y hy => ?_⟩
        rw [last] at hx
        cases hx
        cases hy
        exact a
      · rw [← List.cons_append, List.getLast?_concat]

namespace Approach

variable {c d : V} {chain : List V}

theorem leads (h : g.Approach c d chain) :
    (c :: chain).Pairwise (fun y x => TransGen g.Arrow x y) := by
  let _ : Trans (fun y x => TransGen g.Arrow x y) (fun y x => TransGen g.Arrow x y)
    (fun y x => TransGen g.Arrow x y) := ⟨fun one two => two.trans one⟩
  exact (h.links.imp fun _ _ a => .single a).pairwise

theorem leads_to_cycle (h : g.Approach c d chain) {x : V} (mem : x ∈ chain) :
    TransGen g.Arrow x c :=
  (List.pairwise_cons.1 h.leads).1 x mem

theorem not_reaches (h : g.Approach c d chain) {x : V} (mem : x ∈ chain) : ¬ g.Reaches d x :=
  fun reached => h.off x mem (((h.leads_to_cycle mem).tail h.back).trans_left reached)

theorem eq_of_arrow (h : g.Approach c d chain) {v : V} (mem : v ∈ c :: chain) {z : V}
    (reached : g.Reaches d z) (a : g.Arrow z v) : v = c := by
  rcases List.mem_cons.1 mem with eq | mem
  · exact eq
  · exact absurd (reached.tail a) (h.not_reaches mem)

theorem exists_perm_keys (h : g.Approach c d chain) :
    ∃ rest, (d :: (chain ++ rest)).Perm g.keys := by
  have key {x y : V} (path : TransGen g.Arrow x y) : x ∈ g.keys := by
    obtain ⟨_, a, _⟩ := TransGen.head'_iff.1 path
    exact mem_keys_of_mem_next a
  have subset : d :: chain ⊆ g.keys := List.forall_mem_cons.2
    ⟨key (.tail' h.path h.back), fun x mem => key (h.leads_to_cycle mem)⟩
  have distinct : (d :: chain).Nodup := by
    refine List.nodup_cons.2 ⟨fun mem => h.not_reaches mem .refl, ?_⟩
    refine (List.pairwise_cons.1 h.leads).2.imp_of_mem fun mem _ path => ?_
    rintro rfl
    exact h.off _ mem path
  refine ⟨g.keys.diff (d :: chain), ?_⟩
  exact List.subperm_append_diff_self_of_count_le fun x _ =>
    (List.subperm_of_subset distinct subset).count_le x

theorem exists_row (h : g.Approach c d chain) {v : V} (mem : v ∈ c :: chain)
    (loop : g.Arrow c c → d = c) {far : V → Nat} (hfar : ∀ z, z ≠ c → g.Reaches z c →
      far c < far z ∧ ∃ w, g.Arrow z w ∧ g.Reaches w c ∧ far w < far z) (z : V) :
    ∃ row : List V, row.Perm (g.next z) ∧ (g.Arrow z v → ∃ ws, row = v :: ws) ∧
      (z = c → ∃ ws, row = d :: ws) ∧
      (z ≠ c → g.Reaches d z → g.Reaches z c →
        ∃ w ws, row = w :: ws ∧ g.Reaches w c ∧ far w < far z) := by
  have front {w : V} (a : g.Arrow z w) : (w :: (g.next z).erase w).Perm (g.next z) :=
    (List.perm_cons_erase a).symm
  by_cases toV : g.Arrow z v
  · refine ⟨_, front toV, fun _ => ⟨_, rfl⟩, ?_, fun ne there path => ?_⟩
    · rintro rfl
      have eq := h.eq_of_arrow mem h.path toV
      subst eq
      rw [loop toV]
      exact ⟨_, rfl⟩
    · have eq := h.eq_of_arrow mem there toV
      subst eq
      exact ⟨v, _, rfl, .refl, (hfar z ne path).1⟩
  · by_cases atC : z = c
    · subst atC
      exact ⟨_, front h.back, fun a => absurd a toV, fun _ => ⟨_, rfl⟩, fun ne => absurd rfl ne⟩
    · by_cases path : g.Reaches z c
      · obtain ⟨_, w, a, onward, less⟩ := hfar z atC path
        exact ⟨_, front a, fun a => absurd a toV, fun eq => absurd eq atC,
          fun _ _ _ => ⟨w, _, rfl, onward, less⟩⟩
      · exact ⟨_, .refl _, fun a => absurd a toV, fun eq => absurd eq atC,
          fun _ _ there => absurd there path⟩

/-- If the rows begin with `d` and the chain, and the first arrows lead from `d` to `c` and back,
then the search leaves `c` open, and after it each vertex of the chain. -/
theorem staysOpen (h : g.Approach c d chain) {rest : List V} {far : V → Nat}
    (hkeys : g.keys = d :: (chain ++ rest))
    (closer : ∀ z, z ≠ c → g.Reaches d z → g.Reaches z c →
      ∃ w ws, g.next z = w :: ws ∧ g.Reaches w c ∧ far w < far z)
    (back : ∃ ws, g.next c = d :: ws) : ∀ x ∈ c :: chain, g.StaysOpen x := by
  -- The search starts at `d`, goes down to `c` and leaves it at the arrow back to `d`.
  obtain ⟨t, moves, roots, gone, between, frames⟩ := Search.exists_moves_abandoned closer back d
    (chain ++ rest) [] (if d ∈ g.keys then [] else [] ++ [d]) [] [] (by simp) (by simp)
    (List.forall_mem_singleton.2 ⟨.refl, h.path⟩) (by simp)
  have start : Search.start g = ⟨d :: (chain ++ rest), [], [], [], [], []⟩ := by
    rw [Search.start, hkeys]
  replace moves : ReflTransGen (Search.Move g) (.start g) t := by
    rw [start]
    exact moves.head (.newRoot List.not_mem_nil)
  obtain ⟨s, hs⟩ := Search.exists_run_added g t
  have run := ((Search.sound_start g).moves moves).2.trans hs
  have inTime := (Search.inTime_start g).moves moves
  have base : s.Abandoned c :=
    (Search.run_induction (P := (·.Abandoned c)) (fun _ _ gone move => gone.move move) gone hs).1
  have ahead {x y : V} (mem : x ∈ chain) (waiting : y ∈ t.entered ∨
      ∃ before after, t.roots = before ++ y :: after ∧ ∀ r ∈ before, ¬ g.Reaches r x) :
      Search.Ahead g x y t := by
    refine ⟨fun known => absurd (between x known).1 (h.not_reaches mem), waiting.imp_right ?_⟩
    refine fun later => ⟨later, fun f hf => ⟨fun reached => ?_, (frames f hf).2⟩⟩
    exact h.not_reaches mem ((between f.1 (frames f hf).1).1.trans reached)
  -- By induction along the chain: when `x` is entered, the vertex before it is abandoned.
  have all : ∀ pre x post, chain = pre ++ x :: post → s.Abandoned x := by
    intro pre
    induction pre using List.reverseRecOn with
    | nil =>
      intro x post split
      have mem : x ∈ chain := by simp [split]
      have links := h.links
      rw [split] at links
      have a : g.Arrow x c := (List.isChain_cons_cons.1 links).1
      have ne : c ≠ x := fun eq => h.not_reaches mem (eq ▸ h.path)
      exact base.of_arrow a ne inTime (ahead mem (.inl gone.1)) run hs
    | append_singleton pre y ih =>
      intro x post split
      have mem : x ∈ chain := by simp [split]
      have split' : c :: chain = (c :: pre) ++ y :: x :: post := by simp [split]
      have links := h.links
      rw [split'] at links
      have a : g.Arrow x y := (List.isChain_cons_cons.1 (List.isChain_append.1 links).2.1).1
      have ne : y ≠ x := fun eq => h.off x mem (.single (eq ▸ a))
      refine (ih y (x :: post) (by simp [split])).of_arrow a ne inTime (ahead mem ?_) run hs
      refine .inr ⟨pre, x :: post ++ rest, by simp [roots, split], fun r hr reached => ?_⟩
      have back := (List.pairwise_append.1 (split' ▸ h.leads)).2.2 r (.tail _ hr) x (by simp)
      exact h.off x mem (back.trans_left reached)
  intro x mem
  rcases List.mem_cons.1 mem with rfl | mem
  · exact ⟨s, run, base⟩
  · obtain ⟨pre, post, split⟩ := List.append_of_mem mem
    exact ⟨s, run, all pre x post split⟩

end Approach

theorem StaysOpen.not_arrow {k : Graph V} (hk : g.breakCycles .added = .ok k) {v z : V}
    (stays : g.StaysOpen v) (front : g.Arrow z v → ∃ ws, g.next z = v :: ws) : ¬ k.Arrow z v := by
  intro kept
  obtain ⟨s, hs, _, opened, _⟩ := stays
  obtain ⟨sound, empty, ended⟩ := Search.sound_of_run_eq_ok hs
  rw [arrow_breakCycles hs hk] at kept
  obtain ⟨ws, row⟩ := front kept.1
  by_cases closed : z ∈ s.closed
  · exact opened (sound.inOrder.mem_of_kept closed kept)
  · have known : z ∈ s.entered :=
      (sound.covers z (mem_keys_of_mem_next kept.1)).resolve_left (by simp [ended])
    obtain ⟨done, w, behind, split, cut, followed⟩ :=
      (sound.left z known closed).resolve_left (by simp [empty])
    have followedV : v ∈ done ++ [w] := by
      rw [row] at split
      cases done with
      | nil => simp [(List.cons.inj split).1]
      | cons x done => simp [(List.cons.inj split).1]
    exact (followed.settled v followedV).elim kept.2 opened

theorem ReachesCycle.exists_reorders_not_arrow {v : V} (h : g.ReachesCycle v) :
    ∃ g' k, g.Reorders g' ∧ g'.breakCycles .added = .ok k ∧ ∀ z, ¬ k.Arrow z v := by
  obtain ⟨c, d, chain, way, last, loop⟩ := exists_approach h
  have mem : v ∈ c :: chain := List.mem_of_getLast? last
  obtain ⟨far, hfar⟩ := exists_far g c
  choose row perm toV toD closer using way.exists_row mem loop hfar
  obtain ⟨rest, keys⟩ := way.exists_perm_keys
  obtain ⟨g', same, hkeys, hnext⟩ := exists_reorders g keys perm
  have way' : g'.Approach c d chain := by
    refine ⟨?_, ?_, ?_, ?_⟩
    · exact same.arrow_eq ▸ way.back
    · exact same.reaches_eq ▸ way.path
    · exact same.arrow_eq ▸ way.off
    · exact same.arrow_eq ▸ way.links
  have stays := way'.staysOpen hkeys
    (fun z ne there path => by
      rw [hnext]
      rw [same.reaches_eq] at there path ⊢
      exact closer z ne there path)
    (by
      rw [hnext]
      exact toD c rfl) v mem
  obtain ⟨k, hk, _⟩ := g'.exists_breakCycles_added
  refine ⟨g', k, same, hk, fun z => stays.not_arrow hk fun a => ?_⟩
  rw [hnext]
  rw [same.arrow_eq] at a
  exact toV z a

end Graph

end SheetScript
