import Mathlib.Data.List.Forall2
import SeriesCatalog.Plan
import SeriesCatalog.Proofs.Trimming

/-! # Places in a plan

The place of a node is the way down to it from the root: at each step the position of the input that
is taken. Places in the order of words are the nodes with parents before their inputs, and the depth
of a node is the length of its place. The depths and descriptions of the nodes, in that order,
determine the plan as far as it is described.
-/

namespace SeriesCatalog.PlanNode

theorem sizeOf_input {n m : PlanNode} (input : m ∈ n.inputs) : sizeOf m < sizeOf n := by
  cases n with
  | scan => cases input
  | query cluster traits handle table inputs =>
    have smaller : sizeOf m < sizeOf inputs := List.sizeOf_lt_of_mem input
    simp only [query.sizeOf_spec]
    omega

theorem drop_cons {inputs rest : List PlanNode} {first : Nat} {input : PlanNode}
    (below : inputs.drop first = input :: rest) :
    inputs[first]? = some input ∧ inputs.drop (first + 1) = rest := by
  constructor
  · rw [← Nat.add_zero first, ← List.getElem?_drop, below, List.getElem?_cons_zero]
  · rw [← List.drop_drop, below, List.drop_one, List.tail_cons]

/-- What every node inherits from its inputs holds of every plan. -/
@[elab_as_elim]
theorem induction_inputs {motive : PlanNode → Prop}
    (step : ∀ n, (∀ m ∈ n.inputs, motive m) → motive n) (n : PlanNode) : motive n :=
  step n fun m input =>
    have := sizeOf_input input
    induction_inputs step m
termination_by sizeOf n

def at? : PlanNode → List Nat → Option PlanNode
  | n, [] => some n
  | n, position :: rest => n.inputs[position]?.bind fun input => at? input rest

mutual

/-- The places of all nodes, parents before their inputs. -/
def places : PlanNode → List (List Nat)
  | .scan .. => [[]]
  | .query _ _ _ _ inputs => [] :: inputPlaces 0 inputs

/-- The places of inputs, the first of which has a given position, and of the nodes below them. -/
def inputPlaces (position : Nat) : List PlanNode → List (List Nat)
  | [] => []
  | input :: rest => (places input).map (position :: ·) ++ inputPlaces (position + 1) rest

end

/-- The node at the place is the last input of its parent. -/
def IsLast (n : PlanNode) (place : List Nat) : Prop :=
  ∃ above position parent, place = above ++ [position] ∧ n.at? above = some parent ∧
    position + 1 = parent.inputs.length

@[simp] theorem at?_nil (n : PlanNode) : n.at? [] = some n := by
  rw [at?]

theorem at?_cons {n m : PlanNode} {position : Nat} (found : n.inputs[position]? = some m)
    (rest : List Nat) : n.at? (position :: rest) = m.at? rest := by
  rw [at?, found, Option.bind_some]

theorem places_eq (n : PlanNode) : n.places = [] :: inputPlaces 0 n.inputs := by
  cases n with
  | scan => simp only [places, inputs, inputPlaces]
  | query => simp only [places, inputs]

theorem mem_inputPlaces {place : List Nat} {first : Nat} {inputs : List PlanNode} :
    place ∈ inputPlaces first inputs ↔
      ∃ position m rest, inputs[position]? = some m ∧ rest ∈ m.places ∧
        place = (first + position) :: rest := by
  induction inputs generalizing first with
  | nil => simp [inputPlaces]
  | cons input inputs ih =>
    rw [inputPlaces, List.mem_append, List.mem_map, ih]
    constructor
    · rintro (⟨rest, member, rfl⟩ | ⟨position, m, rest, found, member, rfl⟩)
      · exact ⟨0, input, rest, rfl, member, rfl⟩
      · exact ⟨position + 1, m, rest, found, member, by rw [Nat.add_assoc, Nat.add_comm 1]⟩
    · rintro ⟨position, m, rest, found, member, rfl⟩
      cases position with
      | zero =>
        cases found
        exact .inl ⟨rest, member, rfl⟩
      | succ position =>
        exact .inr ⟨position, m, rest, found, member, by rw [Nat.add_assoc, Nat.add_comm 1]⟩

theorem mem_places_iff {n : PlanNode} {place : List Nat} :
    place ∈ n.places ↔ (n.at? place).isSome = true := by
  induction place generalizing n with
  | nil => simp [places_eq]
  | cons first rest ih =>
    rw [places_eq, List.mem_cons, mem_inputPlaces, at?]
    simp only [reduceCtorEq, false_or, Nat.zero_add, List.cons.injEq]
    cases found : n.inputs[first]? with
    | none =>
      simp only [Option.bind_none, Option.isSome_none, Bool.false_eq_true, iff_false]
      rintro ⟨_, m, _, other, -, rfl, -⟩
      rw [found] at other
      cases other
    | some m =>
      rw [Option.bind_some, ← ih]
      constructor
      · rintro ⟨_, other, _, same, member, rfl, rfl⟩
        rw [found] at same
        cases same
        exact member
      · intro member
        exact ⟨first, m, rest, found, member, rfl, rfl⟩

theorem inputPlaces_sorted {inputs : List PlanNode}
    (each : ∀ m ∈ inputs, m.places.Pairwise (· < ·)) (first : Nat) :
    (inputPlaces first inputs).Pairwise (· < ·) := by
  induction inputs generalizing first with
  | nil => exact .nil
  | cons input inputs ih =>
    obtain ⟨sorted, others⟩ := List.forall_mem_cons.1 each
    rw [inputPlaces]
    refine List.pairwise_append.2 ⟨?_, ih others _, ?_⟩
    · refine List.pairwise_map.2 (sorted.imp fun less => ?_)
      exact List.cons_lt_cons_iff.2 (.inr ⟨rfl, less⟩)
    · -- A place below an earlier input comes before all places below later ones.
      intro early earlyMember late lateMember
      obtain ⟨rest, -, rfl⟩ := List.mem_map.1 earlyMember
      obtain ⟨position, _, _, -, -, rfl⟩ := mem_inputPlaces.1 lateMember
      exact List.cons_lt_cons_iff.2 (.inl (by omega))

theorem places_sorted (n : PlanNode) : n.places.Pairwise (· < ·) := by
  induction n using induction_inputs with
  | step n ih =>
    rw [places_eq]
    refine List.pairwise_cons.2 ⟨fun place member => ?_, inputPlaces_sorted ih 0⟩
    obtain ⟨position, m, rest, -, -, rfl⟩ := mem_inputPlaces.1 member
    exact List.nil_lt_cons _ _

theorem preorderInputs_eq (depth : Nat) (inputs : List PlanNode) :
    preorderInputs depth inputs = inputs.flatMap (preorder depth) := by
  induction inputs with
  | nil => simp only [preorderInputs, List.flatMap_nil]
  | cons input inputs ih => rw [preorderInputs, ih, List.flatMap_cons]

theorem preorder_eq (n : PlanNode) (depth : Nat) :
    n.preorder depth = (depth, n) :: n.inputs.flatMap (preorder (depth + 1)) := by
  cases n with
  | scan => simp only [preorder, inputs, List.flatMap_nil]
  | query => rw [preorder, preorderInputs_eq, inputs]

theorem preorderInputs_places {n : PlanNode} {depth : Nat} {rest : List PlanNode} {first : Nat}
    (each : ∀ m ∈ rest, (m.preorder (depth + 1)).map (fun x => (x.1, some x.2)) =
      m.places.map fun place => (depth + 1 + place.length, m.at? place))
    (below : n.inputs.drop first = rest) :
    (rest.flatMap (preorder (depth + 1))).map (fun x => (x.1, some x.2)) =
      (inputPlaces first rest).map fun place => (depth + place.length, n.at? place) := by
  induction rest generalizing first with
  | nil => simp only [inputPlaces, List.flatMap_nil, List.map_nil]
  | cons input rest ih =>
    obtain ⟨own, others⟩ := List.forall_mem_cons.1 each
    obtain ⟨found, later⟩ := drop_cons below
    rw [List.flatMap_cons, List.map_append, own, ih others later, inputPlaces, List.map_append,
      List.map_map]
    congr 1
    refine List.map_congr_left fun place _ => ?_
    simp only [Function.comp_apply, at?_cons found, List.length_cons]
    congr 1
    omega

/-- Nodes with their depths are the nodes at all places with the lengths of these. -/
theorem preorder_places (n : PlanNode) (depth : Nat) :
    (n.preorder depth).map (fun x => (x.1, some x.2)) =
      n.places.map fun place => (depth + place.length, n.at? place) := by
  induction n using induction_inputs generalizing depth with
  | step n ih =>
    rw [preorder_eq, places_eq, List.map_cons, List.map_cons, at?_nil, List.length_nil,
      Nat.add_zero]
    exact congrArg _ (preorderInputs_places (fun m member => ih m member (depth + 1)) rfl)

/-- Both plans have nodes at the same places, with the same descriptions. -/
def Alike (n m : PlanNode) : Prop :=
  ∀ place, (n.at? place).map description = (m.at? place).map description

/-- The depths and the descriptions of the nodes, parents before their inputs. -/
def outline (depth : Nat) (n : PlanNode) : List (Nat × String) :=
  (n.preorder depth).map fun x => (x.1, x.2.description)

theorem outline_eq (n : PlanNode) (depth : Nat) :
    n.outline depth = (depth, n.description) :: n.inputs.flatMap (outline (depth + 1)) := by
  rw [outline, preorder_eq, List.map_cons, List.map_flatMap]
  rfl

theorem outline_deep {n : PlanNode} {depth : Nat} :
    ∀ x ∈ n.outline depth, depth ≤ x.1 := by
  induction n using induction_inputs generalizing depth with
  | step n ih =>
    intro x member
    rw [outline_eq, List.mem_cons, List.mem_flatMap] at member
    rcases member with rfl | ⟨m, input, below⟩
    · exact Nat.le_refl _
    · have deeper := ih m input x below
      omega

/-- What stands below a node reaches up to the next node that is as high as it. -/
theorem outline_cut {n m : PlanNode} {depth : Nat} {after other : List (Nat × String)}
    (high : ∀ x ∈ after.head?, x.1 ≤ depth) (otherHigh : ∀ x ∈ other.head?, x.1 ≤ depth)
    (same : n.outline depth ++ after = m.outline depth ++ other) :
    n.outline depth = m.outline depth ∧ after = other := by
  have cut : ∀ (k : PlanNode) (rest : List (Nat × String)), (∀ x ∈ rest.head?, x.1 ≤ depth) →
      (k.inputs.flatMap (outline (depth + 1)) ++ rest).dropWhile (fun x => decide (depth < x.1)) =
        rest := by
    intro k rest stops
    refine Text.dropWhile_padded (fun x member => ?_) fun x first => ?_
    · obtain ⟨input, -, deep⟩ := List.mem_flatMap.1 member
      exact decide_eq_true (outline_deep x deep)
    · exact decide_eq_false (Nat.not_lt.2 (stops x first))
  rw [outline_eq, outline_eq, List.cons_append, List.cons_append, List.cons.injEq] at same
  obtain ⟨head, tail⟩ := same
  have rests : after = other := by
    rw [← cut n after high, tail, cut m other otherHigh]
  rw [rests] at tail
  rw [outline_eq, outline_eq, head, List.append_cancel_right tail]
  exact ⟨rfl, rests⟩

theorem inputs_alike {inputs others : List PlanNode} {depth : Nat}
    (each : ∀ n ∈ inputs, ∀ m : PlanNode, n.outline depth = m.outline depth → n.Alike m)
    (same : inputs.flatMap (outline depth) = others.flatMap (outline depth)) :
    List.Forall₂ Alike inputs others := by
  -- The outline of a list is empty or begins as high as that of its first node.
  have high : ∀ (rest : List PlanNode), ∀ x ∈ (rest.flatMap (outline depth)).head?,
      x.1 ≤ depth := by
    intro rest x first
    cases rest with
    | nil => cases first
    | cons n rest =>
      rw [List.flatMap_cons, outline_eq, List.cons_append, List.head?_cons] at first
      cases first
      exact Nat.le_refl _
  induction inputs generalizing others with
  | nil =>
    cases others with
    | nil => exact .nil
    | cons m others =>
      rw [List.flatMap_cons, outline_eq] at same
      cases same
  | cons n inputs ih =>
    cases others with
    | nil =>
      rw [List.flatMap_cons, outline_eq] at same
      cases same
    | cons m others =>
      obtain ⟨own, later⟩ := List.forall_mem_cons.1 each
      rw [List.flatMap_cons, List.flatMap_cons] at same
      obtain ⟨first, rest⟩ := outline_cut (high inputs) (high others) same
      exact .cons (own m first) (ih later rest)

theorem alike_of_inputs {n m : PlanNode} (described : n.description = m.description)
    (inputs : List.Forall₂ Alike n.inputs m.inputs) : n.Alike m := by
  intro place
  cases place with
  | nil => simp only [at?_nil, Option.map_some, described]
  | cons position rest =>
    by_cases inside : position < n.inputs.length
    · have other : position < m.inputs.length := inputs.length_eq ▸ inside
      have alike := inputs.get inside other
      rw [at?_cons (List.getElem?_eq_getElem inside), at?_cons (List.getElem?_eq_getElem other)]
      exact alike rest
    · have other : ¬ position < m.inputs.length := inputs.length_eq ▸ inside
      rw [at?, at?, List.getElem?_eq_none (Nat.le_of_not_lt inside),
        List.getElem?_eq_none (Nat.le_of_not_lt other)]

/-- A plan can be made again, as far as it is described, from the depths of its nodes. -/
theorem alike_of_outline {n m : PlanNode} {depth : Nat}
    (same : n.outline depth = m.outline depth) : n.Alike m := by
  induction n using induction_inputs generalizing m depth with
  | step n ih =>
    rw [outline_eq, outline_eq, List.cons.injEq, Prod.mk.injEq] at same
    obtain ⟨⟨-, described⟩, below⟩ := same
    exact alike_of_inputs described (inputs_alike (fun input member other => ih input member) below)

end SeriesCatalog.PlanNode
