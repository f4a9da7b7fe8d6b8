import Mathlib.Data.List.DropRight
import SheetScript.Graph.Cycles
import SheetScript.Proofs.Graph.Arrows

/-!
What a depth-first search has found at each moment. A closed vertex keeps arrows only to vertices
that were closed before it; a vertex that was left open lost the arrow at which the search left it,
and what stands behind that arrow was never followed.
-/

universe u

namespace SheetScript.Search

open Relation

variable {V : Type u} [DecidableEq V]

inductive Move (g : Graph V) : Search V → Search V → Prop
  | knownRoot {v roots entered closed cut added} : v ∈ entered →
      Move g ⟨v :: roots, [], entered, closed, cut, added⟩ ⟨roots, [], entered, closed, cut, added⟩
  | newRoot {v roots entered closed cut added} : v ∉ entered →
      Move g ⟨v :: roots, [], entered, closed, cut, added⟩
        ⟨roots, [(v, g.next v)], v :: entered, closed, cut,
          if v ∈ g.keys then added else added ++ [v]⟩
  | close {v roots stack entered closed cut added} :
      Move g ⟨roots, (v, []) :: stack, entered, closed, cut, added⟩
        ⟨roots, stack, entered, v :: closed, cut, added⟩
  | pass {v w ws roots stack entered closed cut added} : w ∈ closed →
      Move g ⟨roots, (v, w :: ws) :: stack, entered, closed, cut, added⟩
        ⟨roots, (v, ws) :: stack, entered, closed, cut, added⟩
  | leave {v w ws roots stack entered closed cut added} : w ∉ closed → w ∈ entered →
      Move g ⟨roots, (v, w :: ws) :: stack, entered, closed, cut, added⟩
        ⟨roots, stack, entered, closed, (v, w) :: entrance v stack ++ cut, added⟩
  | descend {v w ws roots stack entered closed cut added} : w ∉ entered →
      Move g ⟨roots, (v, w :: ws) :: stack, entered, closed, cut, added⟩
        ⟨roots, (w, g.next w) :: (v, ws) :: stack, w :: entered, closed, cut,
          if w ∈ g.keys then added else added ++ [w]⟩

theorem eq_of_enter_eq_ok {g : Graph V} {missing : Missing} {s s' : Search V} {v : V}
    (h : enter g missing s v = .ok s') :
    s' = ⟨s.roots, (v, g.next v) :: s.stack, v :: s.entered, s.closed, s.cut,
      if v ∈ g.keys then s.added else s.added ++ [v]⟩ := by
  by_cases hv : v ∈ g.keys
  · simpa [enter, hv, eq_comm] using h
  · cases missing with
    | added => simpa [enter, hv, eq_comm] using h
    | refused => simp [enter, hv] at h

theorem move_of_step_eq_ok {g : Graph V} {missing : Missing} {s s' : Search V}
    (going : s.finished = false) (h : step g missing s = .ok s') : Move g s s' := by
  obtain ⟨roots, stack, entered, closed, cut, added⟩ := s
  simp only [step] at h
  split at h
  · split at h
    · simp [finished] at going
    · split at h
      · cases h
        exact .knownRoot ‹_›
      · rw [eq_of_enter_eq_ok h]
        exact .newRoot ‹_›
  · cases h
    exact .close
  · split at h
    · cases h
      exact .pass ‹_›
    · split at h
      · cases h
        exact .leave ‹_› ‹_›
      · rw [eq_of_enter_eq_ok h]
        exact .descend ‹_›

theorem run_induction {g : Graph V} {missing : Missing} {P : Search V → Prop}
    (move : ∀ s s', P s → Move g s s' → P s') {s t : Search V} (start : P s)
    (h : run g missing s = .ok t) : P t ∧ t.finished = true := by
  fun_induction run g missing s with
  | case1 s ended =>
    cases h
    exact ⟨start, ended⟩
  | case2 s going v failed => cases h
  | case3 s going s' stepped ih =>
    exact ih (move s s' start (move_of_step_eq_ok (by simpa using going) stepped)) h

theorem enter_added (g : Graph V) (s : Search V) (v : V) : ∃ t, enter g .added s v = .ok t := by
  unfold enter
  split <;> exact ⟨_, rfl⟩

theorem step_added (g : Graph V) (s : Search V) : ∃ t, step g .added s = .ok t := by
  obtain ⟨roots, stack, entered, closed, cut, added⟩ := s
  match stack with
  | [] =>
    match roots with
    | [] => exact ⟨_, rfl⟩
    | v :: roots =>
      by_cases known : v ∈ entered
      · simp [step, known]
      · simpa [step, known] using enter_added g _ v
  | (v, []) :: stack => exact ⟨_, rfl⟩
  | (v, w :: ws) :: stack =>
    by_cases done : w ∈ closed
    · simp [step, done]
    · by_cases known : w ∈ entered
      · simp [step, done, known]
      · simpa [step, done, known] using enter_added g _ w

theorem exists_run_added (g : Graph V) (s : Search V) : ∃ t, run g .added s = .ok t := by
  fun_induction run g .added s with
  | case1 s ended => exact ⟨s, rfl⟩
  | case2 s going v failed =>
    obtain ⟨t, stepped⟩ := step_added g s
    rw [failed] at stepped
    cases stepped
  | case3 s going s' stepped ih => exact ih

/-- The arrows of `v` that were followed are `done`: each was cut or leads to a closed vertex, and
no other arrow of `v` was cut. -/
structure Followed (cut : List (V × V)) (closed : List V) (v : V) (done : List V) : Prop where
  settled : ∀ w ∈ done, (v, w) ∈ cut ∨ w ∈ closed
  all : ∀ w, (v, w) ∈ cut → w ∈ done

/-- The vertices of a stack follow their arrows in order. Below `child` stands the vertex from
which it was entered. -/
def Frames (g : Graph V) (cut : List (V × V)) (closed : List V) :
    Option V → List (V × List V) → Prop
  | _, [] => True
  | child, (v, ws) :: below =>
    (∃ done, g.next v = done ++ child.toList ++ ws ∧ Followed cut closed v done) ∧
      Frames g cut closed (some v) below

/-- A vertex that the search has left at an arrow to an open one. -/
def LeftOpen (g : Graph V) (cut : List (V × V)) (closed : List V) (v : V) : Prop :=
  ∃ done w behind, g.next v = done ++ w :: behind ∧ (v, w) ∈ cut ∧
    Followed cut closed v (done ++ [w])

/-- Closed vertices, last first: what each keeps leads to vertices closed before it. -/
def ClosedInOrder (g : Graph V) (cut : List (V × V)) : List V → Prop
  | [] => True
  | v :: before => (∀ w ∈ g.next v, (v, w) ∈ cut ∨ w ∈ before) ∧ ClosedInOrder g cut before

section Monotone

variable {g : Graph V} {cut cut' : List (V × V)} {closed closed' : List V}

omit [DecidableEq V] in
theorem Followed.mono {v : V} {done : List V} (h : Followed cut closed v done)
    (hcut : cut ⊆ cut') (hclosed : closed ⊆ closed') (same : ∀ w, (v, w) ∈ cut' → (v, w) ∈ cut) :
    Followed cut' closed' v done := by
  refine ⟨?_, fun w mem => h.all w (same w mem)⟩
  intro w mem
  exact (h.settled w mem).imp (fun c => hcut c) (fun c => hclosed c)

omit [DecidableEq V] in
theorem Followed.snoc {v w : V} {done : List V} (h : Followed cut closed v done)
    (hw : (v, w) ∈ cut ∨ w ∈ closed) : Followed cut closed v (done ++ [w]) := by
  constructor
  · intro x mem
    rcases List.mem_append.1 mem with old | new
    · exact h.settled x old
    · exact List.mem_singleton.1 new ▸ hw
  · exact fun x mem => List.mem_append_left _ (h.all x mem)

theorem Frames.mono {child : Option V} {stack : List (V × List V)}
    (h : Frames g cut closed child stack) (hcut : cut ⊆ cut') (hclosed : closed ⊆ closed')
    (same : ∀ v ∈ stack.map (·.1), ∀ w, (v, w) ∈ cut' → (v, w) ∈ cut) :
    Frames g cut' closed' child stack := by
  induction stack generalizing child with
  | nil => trivial
  | cons f stack ih =>
    obtain ⟨⟨done, row, followed⟩, below⟩ := h
    have here := same f.1 (by simp)
    refine ⟨⟨done, row, followed.mono hcut hclosed here⟩, ih below ?_⟩
    exact fun v mem => same v (by simp [mem])

theorem LeftOpen.mono {v : V} (h : LeftOpen g cut closed v) (hcut : cut ⊆ cut')
    (hclosed : closed ⊆ closed') (same : ∀ w, (v, w) ∈ cut' → (v, w) ∈ cut) :
    LeftOpen g cut' closed' v := by
  obtain ⟨done, w, behind, row, mem, followed⟩ := h
  exact ⟨done, w, behind, row, hcut mem, followed.mono hcut hclosed same⟩

theorem Followed.leftOpen {v w : V} {done ws : List V} (h : Followed cut closed v done)
    (row : g.next v = done ++ w :: ws) (hcut : cut ⊆ cut') (mem : (v, w) ∈ cut')
    (only : ∀ y, (v, y) ∈ cut' → y = w ∨ (v, y) ∈ cut) : LeftOpen g cut' closed v := by
  refine ⟨done, w, ws, row, mem, ?_, ?_⟩
  · intro y hy
    rcases List.mem_append.1 hy with old | new
    · exact (h.settled y old).imp_left fun c => hcut c
    · rw [List.mem_singleton.1 new]
      exact .inl mem
  · intro y hy
    rcases only y hy with rfl | old
    · exact List.mem_append_right _ List.mem_cons_self
    · exact List.mem_append_left _ (h.all y old)

theorem ClosedInOrder.mono (h : ClosedInOrder g cut closed) (hcut : cut ⊆ cut') :
    ClosedInOrder g cut' closed := by
  induction closed with
  | nil => trivial
  | cons v before ih => exact ⟨fun w a => (h.1 w a).imp_left fun c => hcut c, ih h.2⟩

omit [DecidableEq V] in
theorem mem_entrance {v : V} {e : V × V} {stack : List (V × List V)}
    (mem : e ∈ entrance v stack) : e.1 ∈ stack.map (·.1) ∧ e.2 = v := by
  cases stack with
  | nil => exact absurd mem List.not_mem_nil
  | cons f stack =>
    obtain rfl := List.mem_singleton.1 mem
    simp

theorem Frames.pop {v : V} {stack : List (V × List V)} (h : Frames g cut closed (some v) stack)
    (distinct : (stack.map (·.1)).Nodup) (hcut : cut ⊆ cut') (hclosed : closed ⊆ closed')
    (same : ∀ x ∈ stack.map (·.1), ∀ y, (x, y) ∈ cut' → (x, y) ∈ cut ∨ (x, y) ∈ entrance v stack)
    (hv : entrance v stack ⊆ cut' ∨ v ∈ closed') : Frames g cut' closed' none stack := by
  cases stack with
  | nil => trivial
  | cons f stack =>
    obtain ⟨⟨done, row, followed⟩, below⟩ := h
    obtain ⟨off, _⟩ := List.nodup_cons.1 distinct
    refine ⟨⟨done ++ [v], by simpa using row, ?_, ?_⟩, below.mono hcut hclosed ?_⟩
    · intro x mem
      rcases List.mem_append.1 mem with old | new
      · exact (followed.settled x old).imp (fun c => hcut c) (fun c => hclosed c)
      · rw [List.mem_singleton.1 new]
        exact hv.imp_left fun all => all List.mem_cons_self
    · intro x mem
      rcases same f.1 (by simp) x mem with old | new
      · exact List.mem_append_left _ (followed.all x old)
      · have here : x = v := (mem_entrance new).2
        exact List.mem_append_right _ (by simp [here])
    · intro x on y mem
      refine (same x (by simp [on]) y mem).resolve_right fun new => off ?_
      obtain ⟨rfl, _⟩ := Prod.mk.inj (List.mem_singleton.1 new)
      exact on

theorem Frames.arrow {v : V} {stack : List (V × List V)} (h : Frames g cut closed (some v) stack)
    {e : V × V} (mem : e ∈ entrance v stack) : g.Arrow e.1 e.2 := by
  cases stack with
  | nil => exact absurd mem List.not_mem_nil
  | cons f stack =>
    obtain ⟨⟨done, row, _⟩, _⟩ := h
    rw [List.mem_singleton.1 mem, Graph.Arrow, row]
    simp

theorem Frames.transGen {v : V} {stack : List (V × List V)}
    (h : Frames g cut closed (some v) stack) {u : V} (mem : u ∈ stack.map (·.1)) :
    TransGen g.Arrow u v := by
  induction stack generalizing v with
  | nil => exact absurd mem List.not_mem_nil
  | cons f stack ih =>
    have last : g.Arrow f.1 v := h.arrow List.mem_cons_self
    rcases List.mem_cons.1 mem with rfl | mem
    · exact .single last
    · exact (ih h.2 mem).tail last

end Monotone

structure Sound (g : Graph V) (s : Search V) : Prop where
  covers : ∀ v ∈ g.keys, v ∈ s.roots ∨ v ∈ s.entered
  frames : Frames g s.cut s.closed none s.stack
  distinct : (s.stack.map (·.1)).Nodup
  onStack : ∀ v ∈ s.stack.map (·.1), v ∈ s.entered ∧ v ∉ s.closed
  inOrder : ClosedInOrder g s.cut s.closed
  closedEntered : ∀ v ∈ s.closed, v ∈ s.entered
  left : ∀ v ∈ s.entered, v ∉ s.closed →
    v ∈ s.stack.map (·.1) ∨ LeftOpen g s.cut s.closed v
  cutFrom : ∀ e ∈ s.cut, e.1 ∈ s.entered ∧ g.ReachesCycle e.1

theorem sound_start (g : Graph V) : Sound g (start g) where
  covers _ mem := .inl mem
  frames := trivial
  distinct := .nil
  onStack := by simp [start]
  inOrder := trivial
  closedEntered := by simp [start]
  left := by simp [start]
  cutFrom := by simp [start]

theorem Sound.enter {g : Graph V} {s : Search V} (h : Sound g s) {v : V} (fresh : v ∉ s.entered)
    {roots added : List V} {below : List (V × List V)}
    (hroots : ∀ w ∈ s.roots, w = v ∨ w ∈ roots)
    (hstack : below.map (·.1) = s.stack.map (·.1))
    (hframes : Frames g s.cut s.closed (some v) below) :
    Sound g ⟨roots, (v, g.next v) :: below, v :: s.entered, s.closed, s.cut, added⟩ where
  covers w mem := by
    rcases h.covers w mem with root | entered
    · rcases hroots w root with rfl | root
      · exact .inr List.mem_cons_self
      · exact .inl root
    · exact .inr (.tail _ entered)
  frames := by
    have unfollowed : Followed s.cut s.closed v [] :=
      ⟨by simp, fun w mem => absurd (h.cutFrom _ mem).1 fresh⟩
    exact ⟨⟨[], rfl, unfollowed⟩, hframes⟩
  distinct := by
    refine List.nodup_cons.2 ⟨fun mem => ?_, by simpa [hstack] using h.distinct⟩
    exact fresh (h.onStack v (by simpa [hstack] using mem)).1
  onStack w mem := by
    rcases List.mem_cons.1 mem with rfl | mem
    · exact ⟨List.mem_cons_self, fun closed => fresh (h.closedEntered w closed)⟩
    · obtain ⟨entered, opened⟩ := h.onStack w (by simpa [hstack] using mem)
      exact ⟨.tail _ entered, opened⟩
  inOrder := h.inOrder
  closedEntered w mem := .tail _ (h.closedEntered w mem)
  left w mem opened := by
    rcases List.mem_cons.1 mem with rfl | mem
    · exact .inl List.mem_cons_self
    · refine (h.left w mem opened).imp_left fun on => ?_
      rw [List.map_cons, hstack]
      exact .tail _ on
  cutFrom e mem := ⟨.tail _ (h.cutFrom e mem).1, (h.cutFrom e mem).2⟩

section Moves

variable {g : Graph V} {roots entered closed added : List V} {cut : List (V × V)} {v w : V}
  {ws : List V} {stack : List (V × List V)}

theorem Sound.close (h : Sound g ⟨roots, (v, []) :: stack, entered, closed, cut, added⟩) :
    Sound g ⟨roots, stack, entered, v :: closed, cut, added⟩ := by
  obtain ⟨⟨done, row, followed⟩, below⟩ := h.frames
  obtain ⟨off, distinct⟩ := List.nodup_cons.1 h.distinct
  have grown : closed ⊆ v :: closed := List.subset_cons_self v closed
  constructor
  case covers => exact h.covers
  case frames =>
    exact below.pop distinct (fun _ c => c) grown (fun _ _ _ c => .inl c)
      (.inr List.mem_cons_self)
  case distinct => exact distinct
  case onStack =>
    intro x mem
    obtain ⟨known, opened⟩ := h.onStack x (.tail _ mem)
    refine ⟨known, fun closed => ?_⟩
    rcases List.mem_cons.1 closed with rfl | closed
    · exact off mem
    · exact opened closed
  case inOrder =>
    refine ⟨fun x a => followed.settled x ?_, h.inOrder⟩
    simpa [row] using a
  case closedEntered =>
    exact List.forall_mem_cons.2 ⟨(h.onStack v List.mem_cons_self).1, h.closedEntered⟩
  case left =>
    intro x known opened
    obtain ⟨other, opened⟩ := not_or.1 (mt List.mem_cons.2 opened)
    rcases h.left x known opened with on | left
    · exact .inl ((List.mem_cons.1 on).resolve_left other)
    · exact .inr (left.mono (fun _ c => c) grown fun _ c => c)
  case cutFrom => exact h.cutFrom

theorem Sound.pass (h : Sound g ⟨roots, (v, w :: ws) :: stack, entered, closed, cut, added⟩)
    (hw : w ∈ closed) : Sound g ⟨roots, (v, ws) :: stack, entered, closed, cut, added⟩ := by
  obtain ⟨⟨done, row, followed⟩, below⟩ := h.frames
  refine ⟨h.covers, ⟨⟨done ++ [w], by simpa using row, followed.snoc (.inr hw)⟩, below⟩,
    h.distinct, h.onStack, h.inOrder, h.closedEntered, h.left, h.cutFrom⟩

theorem Sound.reachesCycle
    (h : Sound g ⟨roots, (v, w :: ws) :: stack, entered, closed, cut, added⟩)
    (opened : w ∉ closed) (known : w ∈ entered) : g.ReachesCycle v := by
  obtain ⟨⟨done, row, _⟩, below⟩ := h.frames
  have a : g.Arrow v w := by
    rw [Graph.Arrow, row]
    simp
  rcases h.left w known opened with on | ⟨_, _, _, _, left, _⟩
  · rcases List.mem_cons.1 on with rfl | on
    · exact ⟨w, .refl, .single a⟩
    · exact ⟨w, .single a, (below.transGen on).tail a⟩
  · exact (h.cutFrom _ left).2.head a

theorem Sound.leave
    (h : Sound g ⟨roots, (v, w :: ws) :: stack, entered, closed, cut, added⟩)
    (opened : w ∉ closed) (known : w ∈ entered) :
    Sound g ⟨roots, stack, entered, closed, (v, w) :: entrance v stack ++ cut, added⟩ := by
  obtain ⟨⟨done, row, followed⟩, below⟩ := h.frames
  obtain ⟨off, distinct⟩ := List.nodup_cons.1 h.distinct
  have cycle := h.reachesCycle opened known
  have grown : cut ⊆ (v, w) :: entrance v stack ++ cut := List.subset_append_right _ _
  -- Besides the arrow back, the arrow by which `v` was entered is cut.
  have split (x y : V) (mem : (x, y) ∈ (v, w) :: entrance v stack ++ cut) :
      x = v ∧ y = w ∨ (x, y) ∈ entrance v stack ∨ (x, y) ∈ cut := by
    simpa [or_assoc] using mem
  constructor
  case covers => exact h.covers
  case frames =>
    refine below.pop distinct grown (fun _ c => c) ?_ (.inl fun e mem => by simp [mem])
    intro x on y mem
    rcases split x y mem with ⟨rfl, _⟩ | new | old
    · exact absurd on off
    · exact .inr new
    · exact .inl old
  case distinct => exact distinct
  case onStack => exact fun x mem => h.onStack x (.tail _ mem)
  case inOrder => exact h.inOrder.mono grown
  case closedEntered => exact h.closedEntered
  case left =>
    intro x hx hopen
    by_cases here : x = v
    · subst here
      refine .inr (followed.leftOpen (by simpa using row) grown (by simp) fun y mem => ?_)
      rcases split x y mem with ⟨_, rfl⟩ | new | old
      · exact .inl rfl
      · exact absurd (mem_entrance new).1 off
      · exact .inr old
    · by_cases on : x ∈ stack.map (·.1)
      · exact .inl on
      · have left := (h.left x hx hopen).resolve_left fun mem =>
          (List.mem_cons.1 mem).elim here on
        refine .inr (left.mono grown (fun _ c => c) fun y mem => ?_)
        rcases split x y mem with ⟨eq, _⟩ | new | old
        · exact absurd eq here
        · exact absurd (mem_entrance new).1 on
        · exact old
  case cutFrom =>
    rintro ⟨x, y⟩ mem
    rcases split x y mem with ⟨rfl, _⟩ | new | old
    · exact ⟨(h.onStack x List.mem_cons_self).1, cycle⟩
    · have a := below.arrow new
      obtain ⟨on, rfl⟩ := mem_entrance new
      exact ⟨(h.onStack x (.tail _ on)).1, cycle.head a⟩
    · exact h.cutFrom _ old

theorem Sound.move {s s' : Search V} (h : Sound g s) (move : Move g s s') : Sound g s' := by
  cases move with
  | knownRoot known =>
    refine ⟨?_, h.frames, h.distinct, h.onStack, h.inOrder, h.closedEntered, h.left, h.cutFrom⟩
    intro x mem
    rcases h.covers x mem with root | entered
    · rcases List.mem_cons.1 root with rfl | root
      · exact .inr known
      · exact .inl root
    · exact .inr entered
  | newRoot fresh => exact h.enter fresh (fun x mem => List.mem_cons.1 mem) rfl trivial
  | close => exact h.close
  | pass done => exact h.pass done
  | leave opened known => exact h.leave opened known
  | descend fresh =>
    obtain ⟨⟨done, row, followed⟩, below⟩ := h.frames
    exact h.enter fresh (fun x mem => .inr mem) rfl ⟨⟨done, by simpa using row, followed⟩, below⟩

end Moves

theorem sound_of_run_eq_ok {g : Graph V} {missing : Missing} {s : Search V}
    (h : run g missing (start g) = .ok s) : Sound g s ∧ s.stack = [] ∧ s.roots = [] := by
  obtain ⟨sound, ended⟩ := run_induction (fun _ _ sound move => sound.move move) (sound_start g) h
  simpa [sound, finished] using ended

end SheetScript.Search
