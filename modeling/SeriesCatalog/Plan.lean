import SeriesCatalog.Table
import SeriesCatalog.TableHandle

/-! # Query plans

A plan is a tree of scans and queries. A scan reads a whole table; a query keeps the description of
its table, so that a planner can decide what the store evaluates. The text of a plan has a line for
each node, below its parent and indented under it.
-/

namespace SeriesCatalog

/-- How a plan node is evaluated. -/
inductive Convention where
  | none
  /-- By generic logical operators, which cannot run yet. -/
  | logical
  | bindable
  deriving DecidableEq, Repr

namespace Convention

def name : Convention → String
  | none => "None"
  | logical => "Logical"
  | bindable => "Bindable"

def ofName? (name : String) : Option Convention :=
  [none, logical, bindable].find? fun c => c.name == name

end Convention

/-- What a planner knows of how a node is evaluated. -/
structure TraitSet where
  convention : Convention
  deriving DecidableEq, Repr

def TraitSet.replace (_ : TraitSet) (convention : Convention) : TraitSet := ⟨convention⟩

/-- The nodes of one planning session belong to one cluster, which has the type factory. -/
structure Cluster where
  id : UInt32
  factory : TypeFactory
  deriving DecidableEq, Repr

namespace Cluster

def firstId : UInt32 := 1

/-- A cluster with the next number, and the number after it; the numbers have 32 bits. -/
def new (next : UInt32) (factory : TypeFactory) : Cluster × UInt32 :=
  (⟨next, factory⟩, next + 1)

/-- The traits of a node of which nothing is decided. -/
def traitSet (_ : Cluster) : TraitSet := ⟨.none⟩

def traitSetOf (c : Cluster) (convention : Convention) : TraitSet :=
  c.traitSet.replace convention

def recordText (c : Cluster) : String :=
  "Cluster \x7b id: " ++ toString c.id ++ " \x7d"

end Cluster

inductive PlanNode where
  | scan (cluster : Cluster) (traits : TraitSet) (handle : TableHandle)
  /-- Asks the store for rows of a table, starting from its inputs. -/
  | query (cluster : Cluster) (traits : TraitSet) (handle : TableHandle) (table : Table)
    (inputs : List PlanNode)
  deriving Repr

namespace PlanNode

def ofTable (cluster : Cluster) (handle : TableHandle) : PlanNode :=
  .scan cluster (cluster.traitSetOf .logical) handle

def cluster : PlanNode → Cluster
  | .scan cluster .. | .query cluster .. => cluster

def traits : PlanNode → TraitSet
  | .scan _ traits _ | .query _ traits .. => traits

def handle : PlanNode → TableHandle
  | .scan _ _ handle | .query _ _ handle .. => handle

def rowType (n : PlanNode) : RowType :=
  n.handle.rowType

def inputs : PlanNode → List PlanNode
  | .scan .. => []
  | .query _ _ _ _ inputs => inputs

/-- The letter of a node in the signature of its parent. -/
def letter : PlanNode → Char
  | .scan .. => 's'
  | .query .. => 'q'

/-- A letter for each input, `s` for a scan and `q` for a query. -/
def signature (n : PlanNode) : String :=
  String.ofList (n.inputs.map letter)

/-- The table that a query starts from, if its first input is a scan. -/
def bottomScan? (n : PlanNode) : Option TableHandle :=
  match n.inputs with
  | .scan _ _ handle :: _ => some handle
  | _ => none

/-- Parts separated by a comma and a blank, between square brackets. -/
def bracketed (parts : List String) : String :=
  "[" ++ ", ".intercalate parts ++ "]"

def description : PlanNode → String
  | .scan _ _ handle => "TableScan(table=" ++ bracketed handle.qualifiedName ++ ")"
  | .query cluster traits handle table inputs =>
    "TimeSeriesQuery(table=" ++ bracketed handle.qualifiedName ++
      ", intervals=" ++ bracketed (table.intervals.map Interval.text) ++
      ", timestamp=[" ++ table.timestamp ++ "], metrics=" ++ bracketed table.metrics.toList ++
      ", signature=[" ++ signature (.query cluster traits handle table inputs) ++ "])"

def branch (last : Bool) : String :=
  if last then "└── " else "├── "

/-- What stands below that mark in the lines of the node's inputs. -/
def margin (last : Bool) : String :=
  if last then "    " else "│   "

mutual

/-- The lines of a node that is not the root, after a given indentation. -/
def lines (indent : String) (last : Bool) : PlanNode → List String
  | .scan cluster traits handle =>
    [indent ++ branch last ++ description (.scan cluster traits handle)]
  | .query cluster traits handle table inputs =>
    (indent ++ branch last ++ description (.query cluster traits handle table inputs)) ::
      inputLines (indent ++ margin last) inputs

/-- The lines of inputs, the last of which is marked as such. -/
def inputLines (indent : String) : List PlanNode → List String
  | [] => []
  | input :: rest => lines indent rest.isEmpty input ++ inputLines indent rest

end

/-- The text of a plan: each node in a line of its own, parents before their inputs. -/
def text (n : PlanNode) : String :=
  String.join ((n.description :: inputLines "" n.inputs).map (· ++ "\n"))

mutual

/-- The nodes with their depths, parents before their inputs. -/
def preorder (depth : Nat) : PlanNode → List (Nat × PlanNode)
  | .scan cluster traits handle => [(depth, .scan cluster traits handle)]
  | .query cluster traits handle table inputs =>
    (depth, .query cluster traits handle table inputs) :: preorderInputs (depth + 1) inputs

def preorderInputs (depth : Nat) : List PlanNode → List (Nat × PlanNode)
  | [] => []
  | input :: rest => preorder depth input ++ preorderInputs depth rest

end

end PlanNode

/-- The plan of a table: a query that starts from a single scan. -/
def Table.plan (t : Table) (cluster : Cluster) (handle : TableHandle) : PlanNode :=
  .query cluster (cluster.traitSetOf .bindable) handle t [.ofTable cluster handle]

end SeriesCatalog
