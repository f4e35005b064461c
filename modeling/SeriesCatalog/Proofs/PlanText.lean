import SeriesCatalog.Proofs.PlanPlaces

/-! # The text of a plan

The line of a node has a group of four characters for each step of its place and then the
description of the node. The last group is the mark of the node itself, and each group before it
stands below the mark of a node above. Marks and margins have no letter that a description begins
with, so the depth of each node can be read from its line, and the text determines the plan as far
as it is described.
-/

namespace SeriesCatalog.PlanNode

/-- The groups of a node below one with a mark: the margin of that mark comes first. -/
def hang (last : Bool) : List String → List String
  | [] => [branch last]
  | group :: groups => margin last :: group :: groups

/-- The groups of four characters before the description of the node at a place. -/
def groups : PlanNode → List Nat → List String
  | _, [] => []
  | n, position :: rest =>
    hang (position + 1 == n.inputs.length)
      ((n.inputs[position]?.map fun input => groups input rest).getD [])

def lineAt (n : PlanNode) (place : List Nat) : String :=
  String.join (n.groups place) ++ ((n.at? place).map description).getD ""

def displayed (n : PlanNode) : List String :=
  n.places.map n.lineAt

@[simp] theorem groups_nil (n : PlanNode) : n.groups [] = [] := by
  unfold groups
  rfl

theorem groups_cons {n m : PlanNode} {position : Nat} (found : n.inputs[position]? = some m)
    (rest : List Nat) :
    n.groups (position :: rest) = hang (position + 1 == n.inputs.length) (m.groups rest) := by
  rw [groups, found, Option.map_some, Option.getD_some]

theorem join_hang (last : Bool) {groups : List String} (below : groups ≠ []) :
    String.join (hang last groups) = margin last ++ String.join groups := by
  cases groups with
  | nil => exact absurd rfl below
  | cons group groups => rw [hang, String.join_cons]

theorem groups_ne_nil (n : PlanNode) (position : Nat) (rest : List Nat) :
    n.groups (position :: rest) ≠ [] := by
  rw [groups]
  cases (n.inputs[position]?.map fun input => groups input rest).getD [] <;>
    exact List.cons_ne_nil _ _

theorem lines_eq (n : PlanNode) (indent : String) (last : Bool) :
    n.lines indent last =
      (indent ++ branch last ++ n.description) :: inputLines (indent ++ margin last) n.inputs := by
  cases n with
  | scan => simp only [lines, inputs, inputLines]
  | query => simp only [lines, inputs]

theorem inputLines_places {n : PlanNode} {indent : String} {rest : List PlanNode} {first : Nat}
    (each : ∀ m ∈ rest, ∀ last, m.lines indent last = m.places.map fun place =>
      indent ++ String.join (hang last (m.groups place)) ++
        ((m.at? place).map description).getD "")
    (below : n.inputs.drop first = rest) :
    inputLines indent rest =
      (inputPlaces first rest).map fun place => indent ++ n.lineAt place := by
  induction rest generalizing first with
  | nil => simp only [inputLines, inputPlaces, List.map_nil]
  | cons input rest ih =>
    obtain ⟨own, others⟩ := List.forall_mem_cons.1 each
    obtain ⟨found, later⟩ := drop_cons below
    have last : rest.isEmpty = (first + 1 == n.inputs.length) := by
      have length := congrArg List.length below
      rw [List.length_drop, List.length_cons] at length
      rw [Bool.eq_iff_iff, List.isEmpty_iff_length_eq_zero, beq_iff_eq]
      omega
    rw [inputLines, own, ih others later, inputPlaces, List.map_append, List.map_map]
    congr 1
    refine List.map_congr_left fun place _ => ?_
    rw [Function.comp_apply, lineAt, groups_cons found, at?_cons found, last, String.append_assoc]

/-- The lines of a node below another one are those of its places, after the mark of the node. -/
theorem lines_places (n : PlanNode) (indent : String) (last : Bool) :
    n.lines indent last = n.places.map fun place =>
      indent ++ String.join (hang last (n.groups place)) ++
        ((n.at? place).map description).getD "" := by
  induction n using induction_inputs generalizing indent last with
  | step n ih =>
    rw [lines_eq, places_eq, List.map_cons,
      inputLines_places (fun m member last => ih m member _ last) (List.drop_zero)]
    refine congrArg₂ List.cons ?_ ?_
    · rw [groups_nil, hang, at?_nil, String.join_cons, String.join_nil, String.append_empty]
      rfl
    · refine List.map_congr_left fun place member => ?_
      obtain ⟨position, m, rest, -, -, rfl⟩ := mem_inputPlaces.1 member
      rw [join_hang last (n.groups_ne_nil _ rest), lineAt]
      simp only [String.append_assoc]

theorem text_eq (n : PlanNode) : n.text = String.join (n.displayed.map (· ++ "\n")) := by
  have below : inputLines "" n.inputs = (inputPlaces 0 n.inputs).map n.lineAt := by
    rw [inputLines_places (n := n) (fun m _ last => m.lines_places "" last) List.drop_zero]
    simp only [String.empty_append]
  have root : n.lineAt [] = n.description := by
    rw [lineAt, groups_nil, at?_nil, String.join_nil, String.empty_append]
    rfl
  rw [text, displayed, places_eq, List.map_cons (f := n.lineAt), below, root]

theorem length_hang (last : Bool) (groups : List String) :
    (hang last groups).length = groups.length + 1 := by
  cases groups <;> rfl

theorem hang_head (last : Bool) (groups : List String) :
    (hang last groups)[0]? = some (if groups.length = 0 then branch last else margin last) := by
  cases groups <;> rfl

theorem hang_tail (last : Bool) (groups : List String) (index : Nat) :
    (hang last groups)[index + 1]? = groups[index]? := by
  cases groups <;> rfl

theorem exists_input {n node : PlanNode} {position : Nat} {rest : List Nat}
    (found : n.at? (position :: rest) = some node) :
    ∃ m, n.inputs[position]? = some m ∧ m.at? rest = some node := by
  rw [at?] at found
  exact Option.bind_eq_some_iff.1 found

theorem isLast_root {n : PlanNode} {position : Nat} :
    n.IsLast [position] ↔ position + 1 = n.inputs.length := by
  constructor
  · rintro ⟨above, other, parent, same, found, length⟩
    cases above with
    | nil =>
      cases same
      rw [at?_nil] at found
      cases found
      exact length
    | cons first above =>
      have lengths := congrArg List.length same
      simp only [List.length_cons, List.length_append, List.length_nil] at lengths
      omega
  · intro length
    exact ⟨[], position, n, rfl, n.at?_nil, length⟩

theorem isLast_cons {n m : PlanNode} {position : Nat} (found : n.inputs[position]? = some m)
    {rest : List Nat} (deeper : rest ≠ []) : n.IsLast (position :: rest) ↔ m.IsLast rest := by
  constructor
  · rintro ⟨above, other, parent, same, reached, length⟩
    cases above with
    | nil =>
      cases same
      exact absurd rfl deeper
    | cons first above =>
      cases same
      rw [at?_cons found] at reached
      exact ⟨above, other, parent, rfl, reached, length⟩
  · rintro ⟨above, other, parent, rfl, reached, length⟩
    exact ⟨position :: above, other, parent, rfl, (at?_cons found above).trans reached, length⟩

theorem length_groups {n node : PlanNode} {place : List Nat} (found : n.at? place = some node) :
    (n.groups place).length = place.length := by
  induction place generalizing n with
  | nil => rw [groups_nil]; rfl
  | cons position rest ih =>
    obtain ⟨m, input, reached⟩ := exists_input found
    rw [groups_cons input, length_hang, ih reached, List.length_cons]

/-- The group for a step tells whether the node that the step leads to is the last input of its
parent. -/
theorem groups_mark {n node : PlanNode} {place : List Nat} (found : n.at? place = some node)
    {depth : Nat} (inside : depth < place.length) :
    ∃ last : Bool, (last = true ↔ n.IsLast (place.take (depth + 1))) ∧
      (n.groups place)[depth]? =
        some (if depth + 1 = place.length then branch last else margin last) := by
  induction place generalizing n depth with
  | nil => exact absurd inside (Nat.not_lt_zero _)
  | cons position rest ih =>
    obtain ⟨m, input, reached⟩ := exists_input found
    rw [groups_cons input]
    cases depth with
    | zero =>
      refine ⟨position + 1 == n.inputs.length, ?_, ?_⟩
      · rw [List.take_succ_cons, List.take_zero, isLast_root, beq_iff_eq]
      · rw [hang_head, length_groups reached, List.length_cons]
        congr 2
        exact propext ⟨fun none => by omega, fun one => by omega⟩
    | succ depth =>
      rw [List.length_cons] at inside
      obtain ⟨last, marks, group⟩ := ih reached (Nat.lt_of_succ_lt_succ inside)
      refine ⟨last, ?_, ?_⟩
      · have deeper : rest.take (depth + 1) ≠ [] := by
          intro none
          have length := congrArg List.length none
          rw [List.length_take, List.length_nil] at length
          omega
        rw [List.take_succ_cons, isLast_cons input deeper]
        exact marks
      · rw [hang_tail, group, List.length_cons]
        congr 2
        exact propext ⟨fun same => by omega, fun same => by omega⟩

theorem mem_groups {n : PlanNode} {place : List Nat} :
    ∀ group ∈ n.groups place, ∃ last, group = branch last ∨ group = margin last := by
  induction place generalizing n with
  | nil =>
    intro group member
    rw [groups_nil] at member
    cases member
  | cons position rest ih =>
    have below : ∀ group ∈ (n.inputs[position]?.map fun input => groups input rest).getD [],
        ∃ last, group = branch last ∨ group = margin last := by
      intro group member
      cases found : n.inputs[position]? with
      | none =>
        rw [found] at member
        cases member
      | some m =>
        rw [found] at member
        exact ih group member
    rw [groups]
    generalize (n.inputs[position]?.map fun input => groups input rest).getD [] = deeper at below
    intro group member
    cases deeper with
    | nil => exact ⟨_, .inl (List.mem_singleton.1 member)⟩
    | cons first others =>
      rcases List.mem_cons.1 member with same | member
      · exact ⟨_, .inr same⟩
      · exact below group member

theorem length_mark (last : Bool) : (branch last).length = 4 ∧ (margin last).length = 4 := by
  cases last <;> decide

def drawing : List Char :=
  [' ', '─', '│', '└', '├']

theorem mark_drawn (last : Bool) :
    ∀ c ∈ (branch last).toList ++ (margin last).toList, c ∈ drawing := by
  have each : ((branch last).toList ++ (margin last).toList).all (drawing.contains ·) = true := by
    cases last <;> decide
  intro c member
  exact List.contains_iff_mem.1 (List.all_eq_true.1 each c member)

theorem groups_drawn (n : PlanNode) (place : List Nat) :
    ∀ c ∈ (String.join (n.groups place)).toList, c ∈ drawing := by
  intro c member
  rw [String.toList_join, List.mem_flatMap] at member
  obtain ⟨group, listed, member⟩ := member
  obtain ⟨last, rfl | rfl⟩ := mem_groups group listed
  · exact mark_drawn last c (List.mem_append_left _ member)
  · exact mark_drawn last c (List.mem_append_right _ member)

theorem length_group {n : PlanNode} {place : List Nat} :
    ∀ group ∈ n.groups place, group.length = 4 := by
  intro group member
  obtain ⟨last, rfl | rfl⟩ := mem_groups group member
  · exact (length_mark last).1
  · exact (length_mark last).2

theorem length_indent {n node : PlanNode} {place : List Nat} (found : n.at? place = some node) :
    (String.join (n.groups place)).length = 4 * place.length := by
  rw [String.length_join, List.map_congr_left length_group, List.map_const', List.sum_replicate_nat,
    length_groups found, Nat.mul_comm]

theorem append_begins {start : String} {c : Char} (begins : ∃ rest, start.toList = c :: rest)
    (text : String) : ∃ rest, (start ++ text).toList = c :: rest := by
  obtain ⟨rest, same⟩ := begins
  exact ⟨rest ++ text.toList, by rw [String.toList_append, same, List.cons_append]⟩

theorem description_scan (cluster : Cluster) (traits : TraitSet) (handle : TableHandle) :
    (scan cluster traits handle).description =
      "TableScan(table=" ++ bracketed handle.qualifiedName ++ ")" := rfl

theorem description_query (cluster : Cluster) (traits : TraitSet) (handle : TableHandle)
    (table : Table) (inputs : List PlanNode) :
    (query cluster traits handle table inputs).description =
      "TimeSeriesQuery(table=" ++ bracketed handle.qualifiedName ++
        ", intervals=" ++ bracketed (table.intervals.map Interval.text) ++
        ", timestamp=[" ++ table.timestamp ++ "], metrics=" ++ bracketed table.metrics.toList ++
        ", signature=[" ++ signature (query cluster traits handle table inputs) ++ "])" := rfl

/-- Descriptions begin with a letter that is in no mark. -/
theorem description_begins (n : PlanNode) : ∃ rest, n.description.toList = 'T' :: rest := by
  cases n with
  | scan =>
    rw [description_scan]
    iterate 2 refine append_begins ?_ _
    exact ⟨"ableScan(table=".toList, by decide⟩
  | query =>
    rw [description_query]
    iterate 10 refine append_begins ?_ _
    exact ⟨"imeSeriesQuery(table=".toList, by decide⟩

/-- The depth of a node and its description, from its line. -/
def readLine (line : String) : Nat × String :=
  ((line.toList.takeWhile (· != 'T')).length / 4,
    String.ofList (line.toList.dropWhile (· != 'T')))

theorem lineAt_eq {n node : PlanNode} {place : List Nat} (found : n.at? place = some node) :
    n.lineAt place = String.join (n.groups place) ++ node.description := by
  rw [lineAt, found]
  rfl

theorem readLine_lineAt {n node : PlanNode} {place : List Nat} (found : n.at? place = some node) :
    readLine (n.lineAt place) = (place.length, node.description) := by
  obtain ⟨rest, described⟩ := node.description_begins
  have drawn : ∀ c ∈ (String.join (n.groups place)).toList, (c != 'T') = true := by
    intro c member
    have marks := groups_drawn n place c member
    revert marks
    simp only [drawing, List.mem_cons, List.not_mem_nil, or_false]
    rintro (rfl | rfl | rfl | rfl | rfl) <;> rfl
  have stops : ∀ c ∈ node.description.toList.head?, (c != 'T') = false := by
    intro c first
    rw [described] at first
    cases first
    rfl
  rw [readLine, lineAt_eq found, String.toList_append, Text.dropWhile_padded drawn stops,
    List.takeWhile_append_of_pos drawn, described, List.takeWhile_cons_of_neg (by decide),
    List.append_nil, String.length_toList, length_indent found,
    Nat.mul_div_cancel_left _ (by omega), ← described, String.ofList_toList]

theorem outline_displayed (n : PlanNode) : n.outline 0 = n.displayed.map readLine := by
  have described := congrArg
    (List.map fun x : Nat × Option PlanNode => (x.1, (x.2.map description).getD ""))
    (n.preorder_places 0)
  simp only [List.map_map] at described
  rw [displayed, List.map_map]
  refine described.trans (List.map_congr_left fun place member => ?_)
  obtain ⟨node, found⟩ := Option.isSome_iff_exists.1 (mem_places_iff.1 member)
  rw [Function.comp_apply, Function.comp_apply, readLine_lineAt found, found, Nat.zero_add]
  rfl

def Plain (n : PlanNode) : Prop :=
  ∀ place node, n.at? place = some node → '\n' ∉ node.description.toList

theorem plain_iff {n : PlanNode} :
    n.Plain ↔ ∀ place ∈ n.places, ∀ node ∈ n.at? place, '\n' ∉ node.description.toList :=
  ⟨fun plain place _ => plain place,
    fun plain place node found => plain place (mem_places_iff.2 (by rw [found]; rfl)) node found⟩

instance (n : PlanNode) : Decidable n.Plain :=
  decidable_of_iff _ plain_iff.symm

theorem displayed_plain {n : PlanNode} (plain : n.Plain) :
    ∀ line ∈ n.displayed, '\n' ∉ line.toList := by
  intro line member lineEnd
  obtain ⟨place, listed, rfl⟩ := List.mem_map.1 member
  obtain ⟨node, found⟩ := Option.isSome_iff_exists.1 (mem_places_iff.1 listed)
  rw [lineAt_eq found, String.toList_append, List.mem_append] at lineEnd
  rcases lineEnd with drawn | described
  · exact absurd (groups_drawn n place _ drawn) (by decide)
  · exact plain place node found described

/-- Lines without line ends are found again in a text that ends each of them. -/
theorem splitAll_lines {lines : List String} (plain : ∀ line ∈ lines, '\n' ∉ line.toList) :
    Text.splitAll '\n' (String.join (lines.map (· ++ "\n"))).toList =
      lines.map String.toList ++ [[]] := by
  induction lines with
  | nil => rfl
  | cons line lines ih =>
    obtain ⟨own, others⟩ := List.forall_mem_cons.1 plain
    rw [List.map_cons, String.join_cons, String.toList_append, String.toList_append,
      List.append_assoc]
    exact (Text.splitAll_append own _).trans (congrArg _ (ih others))

theorem splitAll_text {n : PlanNode} (plain : n.Plain) :
    Text.splitAll '\n' n.text.toList = n.displayed.map String.toList ++ [[]] := by
  rw [text_eq, splitAll_lines (displayed_plain plain)]

/-- The groups of four characters before the description of the node at a place: a group for each
step of the place. The last one is the mark of the node, and the others are margins. -/
structure Indents (n : PlanNode) (place : List Nat) (groups : List String) : Prop where
  length : groups.length = place.length
  width : (String.join groups).length = 4 * place.length
  four : ∀ group ∈ groups, group.length = 4
  mark : ∀ depth group, depth + 1 = place.length → groups[depth]? = some group →
    (group = "└── " ∨ group = "├── ") ∧ (group = "└── " ↔ n.IsLast place)
  margin : ∀ depth group, depth + 1 < place.length → groups[depth]? = some group →
    (group = "    " ∨ group = "│   ") ∧ (group = "    " ↔ n.IsLast (place.take (depth + 1)))

def IsLine (n : PlanNode) (place : List Nat) (line : String) : Prop :=
  ∃ node groups, n.at? place = some node ∧ n.Indents place groups ∧
    line = String.join groups ++ node.description

theorem branch_last (last : Bool) :
    (branch last = "└── " ∨ branch last = "├── ") ∧ (branch last = "└── " ↔ last = true) := by
  cases last <;> decide

theorem margin_last (last : Bool) :
    (margin last = "    " ∨ margin last = "│   ") ∧ (margin last = "    " ↔ last = true) := by
  cases last <;> decide

theorem indents_groups {n node : PlanNode} {place : List Nat} (found : n.at? place = some node) :
    n.Indents place (n.groups place) where
  length := length_groups found
  width := length_indent found
  four := length_group
  mark := by
    intro depth group own at_depth
    have inside : depth < place.length := by omega
    obtain ⟨last, marks, drawn⟩ := groups_mark found inside
    rw [if_pos own, at_depth, Option.some.injEq] at drawn
    rw [own, List.take_length] at marks
    rw [drawn, ← marks]
    exact branch_last last
  margin := by
    intro depth group above at_depth
    obtain ⟨last, marks, drawn⟩ := groups_mark found (Nat.lt_of_succ_lt above)
    rw [if_neg (Nat.ne_of_lt above), at_depth, Option.some.injEq] at drawn
    rw [drawn, ← marks]
    exact margin_last last

theorem isLine_displayed (n : PlanNode) : List.Forall₂ n.IsLine n.places n.displayed := by
  rw [displayed, List.forall₂_map_right_iff, List.forall₂_same]
  intro place member
  obtain ⟨node, found⟩ := Option.isSome_iff_exists.1 (mem_places_iff.1 member)
  exact ⟨node, n.groups place, found, indents_groups found, lineAt_eq found⟩

theorem displayed_injective {n m : PlanNode} (plain : n.Plain) (otherPlain : m.Plain)
    (same : m.text = n.text) : m.displayed = n.displayed := by
  have lines := splitAll_text otherPlain
  rw [same, splitAll_text plain] at lines
  exact (List.map_injective_iff.2 fun _ _ => String.toList_inj.1)
    (List.append_cancel_right lines).symm

/-- The text of a plan whose descriptions have no line ends is made of a line for each node, parents
before their inputs. A line shows at which depth its node is and which of the nodes above it are
last inputs, and plans with equal texts have equal descriptions at equal places. -/
theorem text_determines_plan {n : PlanNode} (plain : n.Plain) :
    (∃ lines : List String, n.text = String.join (lines.map (· ++ "\n")) ∧
      (∀ line ∈ lines, '\n' ∉ line.toList) ∧ List.Forall₂ n.IsLine n.places lines) ∧
    n.places.Pairwise (· < ·) ∧
    (∀ place, place ∈ n.places ↔ ∃ node, n.at? place = some node) ∧
    (n.preorder 0).map (fun x => (x.1, some x.2)) =
      n.places.map (fun place => (place.length, n.at? place)) ∧
    ∀ m : PlanNode, m.Plain → m.text = n.text → m.Alike n := by
  refine ⟨⟨n.displayed, n.text_eq, displayed_plain plain, n.isLine_displayed⟩, n.places_sorted,
    fun place => mem_places_iff.trans Option.isSome_iff_exists, ?_, ?_⟩
  · rw [n.preorder_places 0]
    simp only [Nat.zero_add]
  · intro m otherPlain same
    have outlines : m.outline 0 = n.outline 0 := by
      rw [outline_displayed, outline_displayed, displayed_injective plain otherPlain same]
    exact alike_of_outline outlines

/-- A query of sales that starts from a query of two tables and from a third table. -/
def salesQuery : PlanNode :=
  let scan name := ofTable ⟨1, .permissive⟩ ⟨["shop", name], ⟨[]⟩⟩
  let query name inputs := PlanNode.query ⟨1, .permissive⟩ ⟨.bindable⟩ ⟨["shop", name], ⟨[]⟩⟩
    ⟨"shop", name, .empty, .empty, "ts", [Interval.default]⟩ inputs
  query "sales" [query "visits" [scan "zones", scan "days"], scan "sales"]

example : salesQuery.places.map salesQuery.groups =
    [[], ["├── "], ["│   ", "├── "], ["│   ", "└── "], ["└── "]] := by decide +kernel

theorem salesQuery_determined :
    salesQuery.Plain ∧ salesQuery.displayed.length = 5 ∧
      ∀ m : PlanNode, m.Plain → m.text = salesQuery.text → m.Alike salesQuery := by
  have plain : salesQuery.Plain := by decide +kernel
  obtain ⟨-, -, -, -, alike⟩ := text_determines_plan plain
  exact ⟨plain, by decide +kernel, alike⟩

end SeriesCatalog.PlanNode
