import SeriesCatalog.Proofs.External
import SeriesCatalog.Proofs.Loading
import SeriesCatalog.Proofs.PlanText

/-! # The description of a table

A description is put together from the entry of the table and from its handle, which are looked up
one after the other. Both come from one table that was built from one seed, that of the catalog or
that of a discovery, so the parts of the description agree with each other.
-/

namespace SeriesCatalog

open ClickHouse

namespace RowType

end RowType

namespace Program.Description

def ofTable (t : Table) (handle : TableHandle) : Description :=
  ⟨handle.name, t.timestamp, t.metrics.toList, t.intervals, handle.rowType,
    t.plan ⟨Cluster.firstId, .permissive⟩ handle⟩

variable {t : Table} {row : RowType} {title name : String}

end Program.Description

namespace Program

variable {w : World} {settings : Settings} {s after : Schema} {name : String} {entry : Entry}

theorem describe_queries : (describe w settings s name).queries =
    (tableOrDiscover w settings s name).2.queries :=
  Exchange.bind_queries_quiet fun _ _ => rfl

end Program

namespace Schema

variable {origin : Origin} {start : Schema} {definition : TableDefinition}

end Schema

namespace Program

variable {w : World} {settings : Settings} {origin : Origin} {start : Schema} {name : String}
  {d : Description}

namespace Asked

variable {json : Bool}

end Asked

end Program

end SeriesCatalog
