import Mathlib.Data.List.Nodup
import SeriesCatalog.Json.Decode
import SeriesCatalog.Proofs.Outcome

/-! # Records in JSON

The members of an object are checked one by one, each by the rule of its name. An object that has a
value for each field of a record is read as that record, and so is any other way to write it down.
-/

namespace SeriesCatalog

open Outcome

@[simp] theorem ScalarType.ofName?_name (type : ScalarType) : ofName? type.name = some type := by
  cases type <;> rfl

namespace Json

theorem asList_map {α β : Type} (read : Json → Except Mismatch β) (write : α → Json)
    (items : List α) :
    (Json.array (items.map write)).asList read = items.mapM fun item => read (write item) := by
  induction items with
  | nil => rfl
  | cons item items ih =>
    rw [asList, List.map_cons, List.mapM_cons, List.mapM_cons, ← ih]
    rfl

theorem asScalarType_name (type : ScalarType) : asScalarType (.string type.name) = .ok type := by
  rw [asScalarType, asScalarType.ofName, ScalarType.ofName?_name]

/-- The ways to write down a record with these members: an object of them, in any order and among
members that the record does not know, or the list of their values. -/
inductive Spells (record : List (String × Json)) : Json → Prop where
  | object {members unknown : List (String × Json)}
    (strange : ∀ member ∈ unknown, member.1 ∉ record.map (·.1))
    (same : members.Perm (record ++ unknown)) : Spells record (.object members)
  | list : Spells record (.array (record.map (·.2)))

theorem spells_object (record : List (String × Json)) : Spells record (.object record) :=
  @Spells.object record record [] (by simp) (by simp)

/-- A look-up finds a member if no other member of its name has another value. -/
theorem lookup?_of_mem {members : List (String × Json)} {name : String} {value : Json}
    (member : (name, value) ∈ members) (only : ∀ other, (name, other) ∈ members → other = value) :
    lookup? members name = some value := by
  rw [lookup?]
  cases held : members.find? fun member => member.1 == name with
  | none =>
    have absent := List.find?_eq_none.1 held _ member
    simp at absent
  | some found =>
    obtain ⟨key, other⟩ := found
    have same : key = name := by simpa using List.find?_some held
    have value := only other (same ▸ List.mem_of_find?_eq_some held)
    simp [value]

theorem check_needed {α : Type} {name : String} {read : Json → Except Mismatch α} {j : Json} {a : α}
    (fits : read j = .ok a) : (needed name read).check j = .ok () := by
  simp only [needed, fits]
  rfl

theorem field_of_lookup? {α : Type} {members : List (String × Json)} {name : String} {value : Json}
    (held : lookup? members name = some value) (read : Json → Except Mismatch α) :
    field members name read = read value := by
  simp only [field, held]

/-- Fields of a record with a value for each of them. -/
abbrev FilledFields := List (FieldRule (Except Mismatch) Json × Json)

namespace FilledFields

variable {fields : FilledFields} {title : String}

def rules (fields : FilledFields) : List (FieldRule (Except Mismatch) Json) :=
  fields.map (·.1)

/-- The members of the object that has each value under the name of its field. -/
def members (fields : FilledFields) : List (String × Json) :=
  fields.map fun (rule, value) => (rule.name, value)

theorem checkMember_rules (distinct : (fields.rules.map (·.name)).Nodup)
    {rule : FieldRule (Except Mismatch) Json} (member : rule ∈ fields.rules) (value : Json) :
    checkMember fields.rules (rule.name, value) = rule.check value := by
  have found : FieldRule.find? fields.rules rule.name = some rule := by
    obtain ⟨before, after, split⟩ := List.append_of_mem member
    rw [split] at distinct ⊢
    refine List.find?_eq_some_iff_append.2
      ⟨beq_self_eq_true _, before, after, rfl, fun other earlier => ?_⟩
    rw [List.map_append, List.nodup_append] at distinct
    have different := distinct.2.2 other.name (List.mem_map_of_mem earlier) rule.name
      (List.mem_map_of_mem List.mem_cons_self)
    simpa using different
  simp only [checkMember, found]

theorem names_members : fields.members.map (·.1) = fields.rules.map (·.name) := by
  simp only [members, rules, List.map_map, Function.comp_def]

theorem missing?_rules {names : List String}
    (given : ∀ name ∈ fields.rules.map (·.name), name ∈ names) :
    FieldRule.missing? fields.rules names = none := by
  rw [FieldRule.missing?, Option.map_eq_none_iff, List.find?_eq_none]
  intro rule member
  simp [given rule.name (List.mem_map_of_mem member)]

theorem forM_members {check : String × Json → Except Mismatch Unit}
    (same : ∀ field ∈ fields, check (field.1.name, field.2) = field.1.check field.2) :
    fields.members.forM check = fields.forM fun (rule, value) => rule.check value := by
  induction fields with
  | nil => rfl
  | cons field fields ih =>
    obtain ⟨first, others⟩ := List.forall_mem_cons.1 same
    change check (field.1.name, field.2) >>= (fun _ => (members fields).forM check) = _
    rw [ih others, first]
    rfl

/-- An object with a value for each field is a record when the values fit one after the other. -/
theorem asRecord_members (distinct : (fields.rules.map (·.name)).Nodup) :
    asRecord title fields.rules (.object fields.members) =
      fields.forM (fun (rule, value) => rule.check value) >>= fun _ => .ok fields.members := by
  have checked : fields.members.forM (checkMember fields.rules) =
      fields.forM fun (rule, value) => rule.check value :=
    forM_members fun field member =>
      checkMember_rules distinct (List.mem_map_of_mem member) field.2
  rw [asRecord, checked, names_members, missing?_rules fun name member => member]
  rfl

theorem pairItems_values (whole : String) (index : Nat)
    (fits : ∀ field ∈ fields, field.1.check field.2 = .ok ()) :
    pairItems whole index fields.rules (fields.map (·.2)) = .ok fields.members := by
  induction fields generalizing index with
  | nil => rfl
  | cons field fields ih =>
    obtain ⟨first, others⟩ := List.forall_mem_cons.1 fits
    have rest := ih (index + 1) others
    simp only [rules, members, List.map_cons] at rest ⊢
    rw [pairItems, first, rest]
    rfl

theorem value_unique (distinct : (fields.rules.map (·.name)).Nodup)
    {field : FieldRule (Except Mismatch) Json × Json} (member : field ∈ fields) {other : Json}
    (named : (field.1.name, other) ∈ fields.members) : other = field.2 := by
  obtain ⟨field', member', same⟩ := List.mem_map.1 named
  obtain ⟨name, value⟩ := Prod.mk.inj same
  have distinct' : (fields.map fun field => field.1.name).Nodup := by
    simpa only [rules, List.map_map, Function.comp_def] using distinct
  rw [← value, List.inj_on_of_nodup_map distinct' member' member name]

theorem checkMember_unknown {member : String × Json}
    (strange : member.1 ∉ fields.members.map (·.1)) : checkMember fields.rules member = .ok () := by
  have unruled : FieldRule.find? fields.rules member.1 = none := by
    rw [FieldRule.find?, List.find?_eq_none]
    intro rule isRule sameName
    apply strange
    rw [names_members, ← beq_iff_eq.1 sameName]
    exact List.mem_map_of_mem isRule
  simp only [checkMember, unruled]

section

variable {members unknown : List (String × Json)}

theorem asRecord_object (distinct : (fields.rules.map (·.name)).Nodup)
    (fits : ∀ field ∈ fields, field.1.check field.2 = .ok ())
    (strange : ∀ member ∈ unknown, member.1 ∉ fields.members.map (·.1))
    (same : members.Perm (fields.members ++ unknown)) :
    asRecord title fields.rules (.object members) = .ok members := by
  have checked : members.forM (checkMember fields.rules) = .ok () := by
    apply forM_ok
    intro member held
    rcases List.mem_append.1 (same.mem_iff.1 held) with known | other
    · obtain ⟨field, isField, rfl⟩ := List.mem_map.1 known
      rw [checkMember_rules distinct (List.mem_map_of_mem isField)]
      exact fits field isField
    · exact checkMember_unknown (strange member other)
  have given : FieldRule.missing? fields.rules (members.map (·.1)) = none := by
    apply missing?_rules
    intro name needed
    rw [← names_members] at needed
    apply (same.map (·.1)).mem_iff.2
    rw [List.map_append]
    exact List.mem_append_left _ needed
  rw [asRecord, checked, given]
  rfl

theorem lookup?_object (distinct : (fields.rules.map (·.name)).Nodup)
    (strange : ∀ member ∈ unknown, member.1 ∉ fields.members.map (·.1))
    (same : members.Perm (fields.members ++ unknown))
    {field : FieldRule (Except Mismatch) Json × Json} (isField : field ∈ fields) :
    lookup? members field.1.name = some field.2 := by
  have member : (field.1.name, field.2) ∈ fields.members := List.mem_map.2 ⟨field, isField, rfl⟩
  apply lookup?_of_mem
  · exact same.mem_iff.2 (List.mem_append_left _ member)
  · intro other held
    rcases List.mem_append.1 (same.mem_iff.1 held) with known | unknown
    · exact value_unique distinct isField known
    · have known : field.1.name ∈ fields.members.map (·.1) := List.mem_map.2 ⟨_, member, rfl⟩
      exact absurd known (strange _ unknown)

end

/-- However a record is written down, it is accepted if its values are, and each value is found
under the name of its field. -/
theorem asRecord_spelled (distinct : (fields.rules.map (·.name)).Nodup)
    (fits : ∀ field ∈ fields, field.1.check field.2 = .ok ()) {j : Json}
    (spelled : Spells fields.members j) :
    ∃ members, asRecord title fields.rules j = .ok members ∧
      ∀ field ∈ fields, lookup? members field.1.name = some field.2 := by
  cases spelled with
  | @object members unknown strange same =>
    refine ⟨members, asRecord_object distinct fits strange same, ?_⟩
    intro field isField
    exact lookup?_object distinct strange same isField
  | list =>
    have values : fields.members.map (·.2) = fields.map (·.2) := by
      simp only [members, List.map_map, Function.comp_def]
    refine ⟨fields.members, ?_, ?_⟩
    · rw [asRecord, values]
      exact pairItems_values _ 0 fits
    · intro field isField
      exact lookup?_object distinct (List.forall_mem_nil _) (by simp) isField

end FilledFields

end Json

end SeriesCatalog
