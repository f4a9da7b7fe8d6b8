import Mathlib.Data.List.Induction
import SheetScript.Graph.Order
import SheetScript.Proofs.Graph.Arrows

universe u

namespace SheetScript.Graph

open Relation

variable {V : Type u} [DecidableEq V]

/-- Lists without repetition in which everything comes after what its arrows lead to. -/
inductive Settled (g : Graph V) : List V → Prop
  | nil : Settled g []
  | snoc {l : List V} {v : V} :
      Settled g l → v ∉ l → (∀ w ∈ g.next v, w ∈ l) → Settled g (l ++ [v])

theorem Settled.nodup {g : Graph V} {l : List V} (h : g.Settled l) : l.Nodup := by
  induction h with
  | nil => exact .nil
  | snoc _ fresh _ ih => exact OrderedSet.nodup_snoc ih fresh

theorem Settled.mem_of_arrow {g : Graph V} {l : List V} (h : g.Settled l) {u v : V} (hu : u ∈ l)
    (a : g.Arrow u v) : v ∈ l := by
  induction h with
  | nil => exact absurd hu List.not_mem_nil
  | snoc _ _ next ih =>
    rcases List.mem_append.1 hu with old | new
    · exact List.mem_append_left _ (ih old)
    · rw [List.mem_singleton.1 new] at a
      exact List.mem_append_left _ (next v a)

theorem Settled.mem_of_reaches {g : Graph V} {l : List V} (h : g.Settled l) {u v : V} (hu : u ∈ l)
    (path : g.Reaches u v) : v ∈ l := by
  induction path with
  | refl => exact hu
  | tail _ a ih => exact h.mem_of_arrow ih a

theorem Settled.sublist {g : Graph V} {l : List V} (h : g.Settled l) {u v : V} (hu : u ∈ l)
    (path : TransGen g.Arrow u v) : [v, u].Sublist l := by
  induction h with
  | nil => exact absurd hu List.not_mem_nil
  | snoc before _ next ih =>
    rcases List.mem_append.1 hu with old | new
    · exact (ih old).trans (List.sublist_append_left _ _)
    · rw [List.mem_singleton.1 new] at path ⊢
      obtain ⟨w, a, rest⟩ := TransGen.head'_iff.1 path
      have earlier := before.mem_of_reaches (next w a) rest
      exact (List.singleton_sublist.2 earlier).append_right [_]

omit [DecidableEq V] in
theorem pair_sublist_concat {u v w : V} {l : List V} (h : [v, u].Sublist (l ++ [w])) :
    [v, u].Sublist l ∨ v ∈ l ∧ u = w := by
  obtain ⟨front, back, split, hfront, hback⟩ := List.sublist_append_iff.1 h
  rcases front with _ | ⟨a, _ | ⟨b, rest⟩⟩
  · obtain rfl : [v, u] = back := split
    simpa using hback.length_le
  · obtain ⟨rfl, rfl⟩ : v = a ∧ [u] = back := List.cons.inj split
    exact .inr ⟨List.singleton_sublist.1 hfront, by simpa using hback⟩
  · obtain ⟨rfl, rfl, ends⟩ : v = a ∧ u = b ∧ [] = rest ++ back := by simpa using split
    exact .inl ((List.append_eq_nil_iff.1 ends.symm).1 ▸ hfront)

theorem settled_iff {g : Graph V} {l : List V} :
    g.Settled l ↔ l.Nodup ∧ ∀ u ∈ l, ∀ v, g.Arrow u v → [v, u].Sublist l := by
  refine ⟨fun h => ⟨h.nodup, fun u hu v a => h.sublist hu (.single a)⟩, ?_⟩
  rintro ⟨distinct, order⟩
  induction l using List.reverseRecOn with
  | nil => exact .nil
  | append_singleton l w ih =>
    obtain ⟨front, _, apart⟩ := List.nodup_append.1 distinct
    have last : w ∉ l := fun mem => apart w mem w List.mem_cons_self rfl
    refine .snoc (ih front fun u hu v a => ?_) last fun v a => ?_
    · refine (pair_sublist_concat (order u (List.mem_append_left _ hu) v a)).resolve_right ?_
      exact fun both => last (both.2 ▸ hu)
    · rcases pair_sublist_concat (order w (by simp) v a) with earlier | ⟨mem, _⟩
      · exact earlier.subset (by simp)
      · exact mem

theorem Settled.irrefl {g : Graph V} {l : List V} (h : g.Settled l) {u : V} (hu : u ∈ l) :
    ¬ TransGen g.Arrow u u :=
  fun cycle => List.nodup_iff_sublist.1 h.nodup u (h.sublist hu cycle)

theorem Settled.not_reachesCycle {g : Graph V} {l : List V} (h : g.Settled l) {u : V}
    (hu : u ∈ l) : ¬ g.ReachesCycle u :=
  fun ⟨_, path, cycle⟩ => h.irrefl (h.mem_of_reaches hu path) cycle

/-- What listing `vs` behind `done` gives, when `path` leads to `vs`. -/
structure Settles (g : Graph V) (path done vs result : List V) : Prop where
  settled : g.Settled result
  apart : ∀ v ∈ path, v ∉ result
  keeps : ∀ v ∈ done, v ∈ result
  lists : ∀ v ∈ vs, v ∈ result
  reached : ∀ v ∈ result, v ∈ done ∨ ∃ u ∈ vs, g.Reaches u v

theorem settles_of_settle?_eq_some {g : Graph V} {path done vs result : List V}
    (h : g.settle? path done vs = some result) (settled : g.Settled done)
    (apart : ∀ v ∈ path, v ∉ done) : g.Settles path done vs result := by
  fun_induction settle? g path done vs generalizing result with
  | case1 path done =>
    cases h
    exact ⟨settled, apart, fun _ mem => mem, by simp, fun _ mem => .inl mem⟩
  | case2 path done v vs listed ih =>
    have later := ih h settled apart
    refine ⟨later.settled, later.apart, later.keeps, ?_, ?_⟩
    · exact List.forall_mem_cons.2 ⟨later.keeps v listed, later.lists⟩
    · intro x mem
      refine (later.reached x mem).imp_right ?_
      rintro ⟨u, hu, path⟩
      exact ⟨u, .tail _ hu, path⟩
  | case3 path done v vs fresh onPath => cases h
  | case4 path done v vs fresh off inner ih => cases h
  | case5 path done v vs fresh off below inner ihBelow ih =>
    have first := ihBelow inner settled (List.forall_mem_cons.2 ⟨fresh, apart⟩)
    -- `v` is on the path while what it leads to is listed, so it is not listed there.
    have unlisted : v ∉ below := first.apart v List.mem_cons_self
    have later := ih h (first.settled.snoc unlisted first.lists) (by
      intro p hp mem
      rcases List.mem_append.1 mem with old | new
      · exact first.apart p (.tail _ hp) old
      · exact off (List.mem_singleton.1 new ▸ hp))
    have listed : v ∈ result := later.keeps v (by simp)
    refine ⟨later.settled, later.apart, ?_, ?_, ?_⟩
    · exact fun x mem => later.keeps x (List.mem_append_left _ (first.keeps x mem))
    · exact List.forall_mem_cons.2 ⟨listed, later.lists⟩
    · intro x mem
      rcases later.reached x mem with old | ⟨u, hu, path⟩
      · rcases List.mem_append.1 old with old | new
        · rcases first.reached x old with done | ⟨w, a, path⟩
          · exact .inl done
          · exact .inr ⟨v, List.mem_cons_self, path.head a⟩
        · exact .inr ⟨v, List.mem_cons_self, List.mem_singleton.1 new ▸ .refl⟩
      · exact .inr ⟨u, .tail _ hu, path⟩

theorem reachesCycle_of_settle?_eq_none {g : Graph V} {path done vs : List V}
    (h : g.settle? path done vs = none)
    (leads : ∀ p ∈ path, ∀ v ∈ vs, TransGen g.Arrow p v) : ∃ v ∈ vs, g.ReachesCycle v := by
  fun_induction settle? g path done vs with
  | case1 path done => cases h
  | case2 path done v vs listed ih =>
    obtain ⟨u, hu, cycle⟩ := ih h fun p hp x hx => leads p hp x (.tail _ hx)
    exact ⟨u, .tail _ hu, cycle⟩
  | case3 path done v vs fresh onPath =>
    exact ⟨v, List.mem_cons_self, v, .refl, leads v onPath v List.mem_cons_self⟩
  | case4 path done v vs fresh off inner ih =>
    obtain ⟨w, a, cycle⟩ := ih inner (by
      intro p hp w a
      rcases List.mem_cons.1 hp with rfl | hp
      · exact .single a
      · exact (leads p hp v List.mem_cons_self).tail a)
    exact ⟨v, List.mem_cons_self, cycle.head a⟩
  | case5 path done v vs fresh off below inner ihBelow ih =>
    obtain ⟨u, hu, cycle⟩ := ih h fun p hp x hx => leads p hp x (.tail _ hx)
    exact ⟨u, .tail _ hu, cycle⟩

def orderFrom (g : Graph V) (done : List V) : List V → Except V (List V)
  | [] => .ok done
  | v :: cells =>
    match g.settle? [] done [v] with
    | none => .error v
    | some done => g.orderFrom done cells

theorem order_eq_orderFrom (g : Graph V) (cells : OrderedSet V) :
    g.order cells = g.orderFrom [] cells.toList := by
  suffices h : ∀ (l done : List V), l.foldlM (fun done v =>
      match g.settle? [] done [v] with
      | none => Except.error v
      | some done => Except.ok done) done = g.orderFrom done l from h cells.toList []
  intro l
  induction l with
  | nil => exact fun _ => rfl
  | cons v l ih =>
    intro done
    rw [List.foldlM_cons, orderFrom]
    cases g.settle? [] done [v] with
    | none => rfl
    | some done => exact ih done

theorem settles_of_orderFrom_eq_ok {g : Graph V} {done cells result : List V}
    (h : g.orderFrom done cells = .ok result) (settled : g.Settled done) :
    g.Settles [] done cells result := by
  induction cells generalizing done with
  | nil =>
    cases h
    exact ⟨settled, by simp, fun _ mem => mem, by simp, fun _ mem => .inl mem⟩
  | cons v cells ih =>
    rw [orderFrom] at h
    cases inner : g.settle? [] done [v] with
    | none => simp [inner] at h
    | some below =>
      have first := settles_of_settle?_eq_some inner settled (by simp)
      have later := ih (by simpa [inner] using h) first.settled
      refine ⟨later.settled, by simp, ?_, ?_, ?_⟩
      · exact fun x mem => later.keeps x (first.keeps x mem)
      · exact List.forall_mem_cons.2 ⟨later.keeps v (first.lists v (by simp)), later.lists⟩
      · intro x mem
        rcases later.reached x mem with old | ⟨u, hu, path⟩
        · refine (first.reached x old).imp_right ?_
          rintro ⟨u, hu, path⟩
          exact ⟨v, List.mem_cons_self, List.mem_singleton.1 hu ▸ path⟩
        · exact .inr ⟨u, .tail _ hu, path⟩

theorem first_reachesCycle_of_orderFrom_eq_error {g : Graph V} {done cells : List V} {v : V}
    (h : g.orderFrom done cells = .error v) (settled : g.Settled done) :
    ∃ before after, cells = before ++ v :: after ∧
      (∀ c ∈ before, ¬ g.ReachesCycle c) ∧ g.ReachesCycle v := by
  induction cells generalizing done with
  | nil => cases h
  | cons c cells ih =>
    rw [orderFrom] at h
    cases inner : g.settle? [] done [c] with
    | none =>
      obtain rfl : c = v := by simpa [inner] using h
      obtain ⟨u, hu, cycle⟩ := reachesCycle_of_settle?_eq_none inner (by simp)
      exact ⟨[], cells, rfl, by simp, List.mem_singleton.1 hu ▸ cycle⟩
    | some below =>
      have first := settles_of_settle?_eq_some inner settled (by simp)
      obtain ⟨before, after, split, clear, cycle⟩ := ih (by simpa [inner] using h) first.settled
      have here : ¬ g.ReachesCycle c := first.settled.not_reachesCycle (first.lists c (by simp))
      exact ⟨c :: before, after, by rw [split, List.cons_append],
        List.forall_mem_cons.2 ⟨here, clear⟩, cycle⟩

theorem settled_of_order_eq_ok {g : Graph V} {cells : OrderedSet V} {l : List V}
    (h : g.order cells = .ok l) : g.Settled l :=
  (settles_of_orderFrom_eq_ok (order_eq_orderFrom g cells ▸ h) .nil).settled

theorem mem_of_order_eq_ok {g : Graph V} {cells : OrderedSet V} {l : List V}
    (h : g.order cells = .ok l) {v : V} : v ∈ l ↔ ∃ c ∈ cells, g.Reaches c v := by
  have spec := settles_of_orderFrom_eq_ok (order_eq_orderFrom g cells ▸ h) .nil
  constructor
  · intro mem
    exact (spec.reached v mem).resolve_left List.not_mem_nil
  · rintro ⟨c, hc, path⟩
    exact spec.settled.mem_of_reaches (spec.lists c hc) path

theorem exists_order_eq_error_iff {g : Graph V} {cells : OrderedSet V} :
    (∃ v, g.order cells = .error v) ↔ ∃ c ∈ cells, g.ReachesCycle c := by
  constructor
  · rintro ⟨v, h⟩
    rw [order_eq_orderFrom] at h
    obtain ⟨before, after, split, _, cycle⟩ := first_reachesCycle_of_orderFrom_eq_error h .nil
    exact ⟨v, OrderedSet.mem_toList.1 (by simp [split]), cycle⟩
  · rintro ⟨c, hc, cycle⟩
    cases h : g.order cells with
    | error v => exact ⟨v, rfl⟩
    | ok l =>
      have listed : c ∈ l := (mem_of_order_eq_ok h).2 ⟨c, hc, .refl⟩
      exact absurd cycle ((settled_of_order_eq_ok h).not_reachesCycle listed)

instance (g : Graph V) (v : V) : Decidable (g.ReachesCycle v) :=
  match h : g.order ⟨[v], List.nodup_singleton v⟩ with
  | .ok _ => isFalse <|
    (settled_of_order_eq_ok h).not_reachesCycle
      ((mem_of_order_eq_ok h).2 ⟨v, List.mem_singleton_self v, .refl⟩)
  | .error w => isTrue <|
    (exists_order_eq_error_iff.1 ⟨w, h⟩).elim fun _ both => List.mem_singleton.1 both.1 ▸ both.2

theorem order_eq_error_iff {g : Graph V} {cells : OrderedSet V} {v : V} :
    g.order cells = .error v ↔ cells.toList.find? (g.ReachesCycle ·) = some v := by
  have first {w : V} (h : g.order cells = .error w) :
      cells.toList.find? (g.ReachesCycle ·) = some w := by
    rw [order_eq_orderFrom] at h
    obtain ⟨before, after, split, clear, cycle⟩ := first_reachesCycle_of_orderFrom_eq_error h .nil
    refine List.find?_eq_some_iff_append.2 ⟨decide_eq_true cycle, before, after, split, ?_⟩
    simpa using clear
  refine ⟨first, fun found => ?_⟩
  have mem : v ∈ cells := List.mem_of_find?_eq_some found
  have cycle : g.ReachesCycle v := by simpa using List.find?_some found
  obtain ⟨w, h⟩ := exists_order_eq_error_iff.2 ⟨v, mem, cycle⟩
  rw [h, Option.some.inj (found.symm.trans (first h))]

theorem acyclic_iff_order {g : Graph V} : g.Acyclic ↔ ∃ l, g.order g.domain = .ok l := by
  constructor
  · intro acyclic
    cases h : g.order g.domain with
    | ok l => exact ⟨l, rfl⟩
    | error v =>
      obtain ⟨c, _, cycle⟩ := exists_order_eq_error_iff.1 ⟨v, h⟩
      exact absurd cycle (acyclic.not_reachesCycle c)
  · rintro ⟨l, h⟩ v cycle
    obtain ⟨w, a, _⟩ := TransGen.head'_iff.1 cycle
    have listed : v ∈ l := (mem_of_order_eq_ok h).2 ⟨v, mem_keys_of_mem_next a, .refl⟩
    exact (settled_of_order_eq_ok h).not_reachesCycle listed ⟨v, .refl, cycle⟩

end SheetScript.Graph
