import SeriesCatalog.Catalog.Codec
import SeriesCatalog.Catalog.Document
import SeriesCatalog.Proofs.Interval
import SeriesCatalog.Proofs.Outcome

/-! # Catalogs from documents

A document gives intervals only as literals, in whichever format it is written. A literal is read
only if it is in UTC, so all intervals of a catalog that was read are canonical.
-/

namespace SeriesCatalog

def Interval.HasLiteral (i : Interval) : Prop :=
  ∃ literal, Interval.parse literal = .ok i

theorem Interval.HasLiteral.canonical {i : Interval} (given : i.HasLiteral) :
    i.isCanonical = true := by
  obtain ⟨literal, parsed⟩ := given
  obtain ⟨_, _, _, _, _, canonical⟩ := Interval.parse_ok_iff.1 parsed
  exact canonical

/-- All intervals of the definition are expressed in UTC. -/
def TableDefinition.Canonical (d : TableDefinition) : Prop :=
  ∀ i ∈ d.intervals, i.isCanonical = true

def TableDefinition.HasLiterals (d : TableDefinition) : Prop :=
  ∀ i ∈ d.intervals, i.HasLiteral

theorem TableDefinition.HasLiterals.canonical {d : TableDefinition} (given : d.HasLiterals) :
    d.Canonical :=
  fun i member => (given i member).canonical

namespace Json

theorem asInterval_hasLiteral {j : Json} {i : Interval} (h : j.asInterval = .ok i) :
    i.HasLiteral := by
  obtain ⟨text, -, h⟩ := Outcome.bind_eq_ok h
  cases parsed : Interval.parse text with
  | error e =>
    rw [parsed] at h
    cases h
  | ok interval =>
    rw [parsed] at h
    cases h
    exact ⟨text, parsed⟩

theorem asList_forall {α : Type} {read : Json → Except Mismatch α} {P : α → Prop}
    (each : ∀ j a, read j = .ok a → P a) {j : Json} {items : List α}
    (h : j.asList read = .ok items) : ∀ a ∈ items, P a := by
  cases j with
  | array values => exact Outcome.mapM_forall each h
  | _ => cases h

theorem fieldOr_ok {α : Type} {read : Json → Except Mismatch α} {P : α → Prop}
    (each : ∀ j a, read j = .ok a → P a) {fallback : α} (missing : P fallback)
    {members : List (String × Json)} {name : String} {a : α}
    (h : fieldOr fallback members name read = .ok a) : P a := by
  unfold fieldOr at h
  split at h
  · exact each _ a h
  · cases h
    exact missing

end Json

theorem TableDefinition.ofJson_hasLiterals {j : Json} {d : TableDefinition}
    (h : TableDefinition.ofJson j = .ok d) : d.HasLiterals := by
  rw [TableDefinition.ofJson] at h
  obtain ⟨members, -, h⟩ := Outcome.bind_eq_ok h
  obtain ⟨dataSource, -, h⟩ := Outcome.bind_eq_ok h
  obtain ⟨timestamp, -, h⟩ := Outcome.bind_eq_ok h
  obtain ⟨metrics, -, h⟩ := Outcome.bind_eq_ok h
  obtain ⟨columns, -, h⟩ := Outcome.bind_eq_ok h
  obtain ⟨intervals, read, h⟩ := Outcome.bind_eq_ok h
  obtain ⟨discover, -, h⟩ := Outcome.bind_eq_ok h
  cases h
  refine Json.fieldOr_ok (P := fun items => ∀ i ∈ items, i.HasLiteral) ?_ ?_ read
  · intro j items read
    exact Json.asList_forall (fun _ _ => Json.asInterval_hasLiteral) read
  · intro i member
    cases member

theorem Catalog.ofJson_hasLiterals {j : Json} {c : Catalog} (h : Catalog.ofJson j = .ok c) :
    ∀ d ∈ c.tables, d.HasLiterals := by
  rw [Catalog.ofJson] at h
  obtain ⟨members, -, h⟩ := Outcome.bind_eq_ok h
  obtain ⟨name, -, h⟩ := Outcome.bind_eq_ok h
  obtain ⟨tables, read, h⟩ := Outcome.bind_eq_ok h
  cases h
  refine Json.fieldOr_ok (P := fun items => ∀ d ∈ items, d.HasLiterals) ?_ ?_ read
  · intro j items read
    exact Json.asList_forall (fun _ _ => TableDefinition.ofJson_hasLiterals) read
  · intro d member
    cases member

namespace Yaml

variable {α β : Type}

/-- Whatever the reader gives has the property. -/
def Decoding.Gives (d : Decoding α) (P : α → Prop) : Prop :=
  ∀ left a rest, d left = .ok (a, rest) → P a

namespace Decoding

theorem gives_pure {P : α → Prop} {a : α} (h : P a) : Gives (pure a) P := by
  intro left b rest given
  cases given
  exact h

theorem gives_throw {P : α → Prop} (fault : Fault) : Gives (throw fault) P := by
  intro left b rest given
  cases given

theorem gives_bind {P : β → Prop} {Q : α → Prop} {d : Decoding α} {next : α → Decoding β}
    (first : d.Gives Q) (each : ∀ a, Q a → (next a).Gives P) : (d >>= next).Gives P := by
  intro left b rest given
  obtain ⟨⟨a, middle⟩, taken, given⟩ := Outcome.bind_eq_ok given
  exact each a (first left a middle taken) middle b rest given

theorem gives_any (d : Decoding α) : d.Gives fun _ => True :=
  fun _ _ _ _ => trivial

theorem gives_then {P : β → Prop} {d : Decoding α} {next : α → Decoding β}
    (each : ∀ a, (next a).Gives P) : (d >>= next).Gives P :=
  gives_bind (gives_any d) fun a _ => each a

end Decoding

namespace Spot

open Decoding

theorem locate_gives {P : α → Prop} {s : Spot} {d : Decoding α} (h : d.Gives P) :
    (s.locate d).Gives P := by
  intro left a rest given
  refine h left a rest ?_
  unfold locate at given
  split at given
  · cases given
  · exact given

theorem reread_gives {P : α → Prop} {read : Spot → Decoding α} {s : Spot}
    (h : (read s).Gives P) : (reread read s).Gives P := by
  intro left a rest given
  obtain ⟨⟨value, others⟩, taken, same⟩ := Outcome.map_eq_ok given
  cases same
  exact h _ a others taken

theorem readItems_gives {P : α → Prop} {read : Spot → Decoding α} (each : ∀ s, (read s).Gives P)
    (s : Spot) (index : Nat) (nodes : List Node) :
    (readItems read s index nodes).Gives fun items => ∀ a ∈ items, P a := by
  induction nodes generalizing index with
  | nil =>
    refine gives_pure fun a member => ?_
    cases member
  | cons node rest ih =>
    refine gives_bind (each _) fun first firstHolds => ?_
    refine gives_bind (ih (index + 1)) fun others othersHold => ?_
    refine gives_pure fun a member => ?_
    rcases List.mem_cons.1 member with rfl | later
    · exact firstHolds
    · exact othersHold a later

theorem asList_gives {P : α → Prop} {read : Spot → Decoding α} (each : ∀ s, (read s).Gives P)
    (s : Spot) : (asList read s).Gives fun items => ∀ a ∈ items, P a := by
  refine gives_then fun target => ?_
  split
  · exact locate_gives (readItems_gives each _ _ _)
  · exact gives_throw _

theorem asInterval_gives (s : Spot) : (asInterval s).Gives Interval.HasLiteral := by
  refine gives_then fun text => ?_
  split
  · rename_i parsed
    exact gives_pure ⟨_, parsed⟩
  · exact gives_throw _

theorem fieldOr_gives {P : α → Prop} {read : Spot → Decoding α} (each : ∀ s, (read s).Gives P)
    {fallback : α} (missing : P fallback) (fields : List (String × Spot)) (name : String) :
    (fieldOr fallback fields name read).Gives P := by
  unfold fieldOr
  split
  · exact reread_gives (each _)
  · exact gives_pure missing

end Spot

end Yaml

open Yaml Yaml.Decoding

theorem TableDefinition.ofSpot_gives (s : Spot) :
    (TableDefinition.ofSpot s).Gives TableDefinition.HasLiterals := by
  refine gives_then fun fields => ?_
  refine gives_then fun dataSource => ?_
  refine gives_then fun timestamp => ?_
  refine gives_then fun metrics => ?_
  refine gives_then fun columns => ?_
  refine gives_bind (Spot.fieldOr_gives (Spot.asList_gives Spot.asInterval_gives) ?_ _ _)
    fun intervals given => ?_
  · intro i member
    cases member
  · exact gives_then fun discover => gives_pure given

theorem Catalog.ofSpot_gives (s : Spot) :
    (Catalog.ofSpot s).Gives fun c => ∀ d ∈ c.tables, d.HasLiterals := by
  refine gives_then fun fields => ?_
  refine gives_then fun name => ?_
  refine gives_bind (Spot.fieldOr_gives (Spot.asList_gives TableDefinition.ofSpot_gives) ?_ _ _)
    fun tables given => ?_
  · intro d member
    cases member
  · exact gives_pure given

theorem Catalog.ofText_hasLiterals {text : String} {c : Catalog}
    (h : Catalog.ofText text = .ok c) : ∀ d ∈ c.tables, d.HasLiterals := by
  have read := Outcome.mapError_eq_ok h
  unfold Yaml.read at read
  split at read
  · cases read
  · split at read
    · rename_i given
      cases read
      exact Catalog.ofSpot_gives _ _ _ _ given
    · cases read

/-- The catalog stands in a document, either in JSON or in YAML. -/
def Catalog.IsRead (c : Catalog) : Prop :=
  (∃ j, Catalog.ofJson j = .ok c) ∨ ∃ text, Catalog.ofText text = .ok c

theorem Catalog.IsRead.canonical {c : Catalog} (read : c.IsRead) :
    ∀ d ∈ c.tables, d.Canonical := by
  intro d member
  rcases read with ⟨j, read⟩ | ⟨text, read⟩
  · exact (ofJson_hasLiterals read d member).canonical
  · exact (ofText_hasLiterals read d member).canonical

end SeriesCatalog
