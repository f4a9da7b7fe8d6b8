import SheetScript.Pattern.Match
import SheetScript.Pattern.Parse

namespace SheetScript.Pattern

def signs : List Char := ['\\', '[', '.', '^', '$', '|', ')', '*', '+', '?', '\x7b', '(']

def Plain (cs : List Char) : Prop := ∀ c ∈ cs, c ∉ signs

theorem plain_of_isAlphanum {cs : List Char} (h : ∀ c ∈ cs, c.isAlphanum = true) : Plain cs := by
  have apart : signs.all (fun c => !c.isAlphanum) = true := by decide
  intro c mem sign
  simpa [h c mem] using List.all_eq_true.1 apart c sign

def literal (cs : List Char) : List Node := cs.map fun c => .char .exact c.toNat

theorem token_of_not_mem_signs {c : Char} (h : c ∉ signs) (rest : List Char) :
    token {} c rest = .ok (.item (.char .exact c.toNat), 1) := by
  have plain : plainToken {} c rest = .ok (.item (.char .exact c.toNat), 1) := by
    unfold plainToken
    split <;> simp_all [signs, Mode.folding]
  exact plain

namespace Reading

theorem run_cons {r r' : Reading} {c : Char} {rest rest' : List Char} {t : Token} {n : Nat}
    (token : token r.mode c rest = .ok (t, n)) (taken : r.take (rest.length + 1) n t = .ok r')
    (dropped : rest.drop (n - 1) = rest') : r.run (c :: rest) = r'.run rest' := by
  rw [run, token]
  simp only [taken, dropped]

theorem run_literal {cs : List Char} (h : Plain cs) (items : List Item) (rest : List Char) :
    run { items := items } (cs ++ rest) =
      run { items := ((literal cs).map Item.part).reverse ++ items } rest := by
  induction cs generalizing items with
  | nil => rfl
  | cons c cs ih =>
    obtain ⟨here, later⟩ := List.forall_mem_cons.1 h
    rw [List.cons_append, run_cons (token_of_not_mem_signs here _) rfl rfl, Nat.sub_self,
      List.drop_zero, push, ih later]
    simp [literal]

end Reading

namespace Node

theorem anyBehind_ofItems (holds : Width → Bool) (ns : List Node) :
    (ofItems ns).anyBehind holds = ns.any (·.anyBehind holds) := by
  fun_induction ofItems ns with
  | case1 => rfl
  | case2 n => simp
  | case3 n ns _ ih => simp [anyBehind, ih]

theorem hasGroup_ofItems (index : Nat) (ns : List Node) :
    (ofItems ns).hasGroup index = ns.any (·.hasGroup index) := by
  fun_induction ofItems ns with
  | case1 => rfl
  | case2 n => simp
  | case3 n ns _ ih => simp [hasGroup, ih]

theorem least_width_literal_le (groups : Nat → Width) (cs : List Char) (ns : List Node) :
    ((ofItems (literal cs ++ ns)).width groups).least ≤
      cs.length + ((ofItems ns).width groups).least := by
  induction cs with
  | nil => simp [literal]
  | cons c cs ih =>
    have first : ((ofItems (literal (c :: cs) ++ ns)).width groups).least ≤
        1 + ((ofItems (literal cs ++ ns)).width groups).least := by
      change ((ofItems (.char .exact c.toNat :: (literal cs ++ ns))).width groups).least ≤ _
      cases literal cs ++ ns with
      | nil => simp [ofItems, width, Width.one]
      | cons n ns =>
        simp only [ofItems, width, Width.add, Width.capped, Width.one]
        omega
    rw [List.length_cons]
    omega

theorem matcher_ofItems_cons (n : Node) (ns : List Node) (deep : Bool) (s : Place) (m : Marks)
    (next : Next) : (ofItems (n :: ns)).matcher deep s m next =
      n.matcher deep s m fun s m => (ofItems ns).matcher deep s m next := by
  cases ns <;> rfl

end Node

namespace Place

theorem step_cons (before rest : List Char) (c : Char) (left : Nat)
    (eq : left = (c :: rest).length) (allowed : Char → Bool) :
    step ⟨before, c :: rest, left, eq⟩ allowed =
      if allowed c then some ⟨c :: before, rest, left - 1, by rw [eq]; rfl⟩ else none :=
  rfl

def advance (s : Place) (n : Nat) : Place :=
  ⟨(s.rest.take n).reverse ++ s.before, s.rest.drop n, s.left - n, by simp [s.left_eq]⟩

end Place

theorem Folding.allows_exact (c d : Char) : Folding.exact.allows c.toNat d = decide (c = d) := by
  simp [allows, family, Char.toNat_inj]

theorem matcher_literal (cs : List Char) (ns : List Node) (deep : Bool) (s : Place) (m : Marks)
    (next : Next) : (Node.ofItems (literal cs ++ ns)).matcher deep s m next =
      if cs <+: s.rest then (Node.ofItems ns).matcher deep (s.advance cs.length) m next
      else .failed m := by
  induction cs generalizing s with
  | nil => simp [literal, Place.advance]
  | cons c cs ih =>
    obtain ⟨before, rest, left, eq⟩ := s
    have first : literal (c :: cs) ++ ns = .char .exact c.toNat :: (literal cs ++ ns) := rfl
    rw [first, Node.matcher_ofItems_cons, Node.matcher, one]
    cases rest with
    | nil => rfl
    | cons d rest =>
      simp only [Place.step_cons, Folding.allows_exact, decide_eq_true_eq, List.cons_prefix_cons]
      by_cases same : c = d
      · simp only [same, if_true, true_and, ih]
        congr 2
        simp [Place.advance, Nat.sub_sub, Nat.add_comm]
      · simp [same]

end SheetScript.Pattern
