import CallLedger.Csv
import CallLedger.Decimal
import CallLedger.Json
import CallLedger.Ranking
import CallLedger.Text.Table

/-!
# Listings

A listing names the blocks that were selected from a profile, together with the
figures of the whole run.  It is what tables, JSON documents and CSV files show, each
in its own way: a table has a row for each block below a line with the figures of the
run, a document holds the calls around a block, too, and CSV has a record of column names
and one record for each block.
-/

namespace CallLedger

/-- A call to or from a listed block. -/
structure ListedCall where
  id : BlockId
  name : String
  count : Count
  time : Count
  deriving DecidableEq

/-- A block of a listing. -/
structure ListedBlock where
  id : BlockId
  name : String
  /-- Display form of the location. -/
  location : String
  count : Count
  time : Count
  selfTime : Count
  callers : List ListedCall
  callees : List ListedCall
  deriving DecidableEq

/-- The selected blocks of a profile. -/
structure Listing where
  /-- Where the samples come from. -/
  source : String
  totalTime : Count
  /-- Number of blocks of the profile. -/
  blocks : Nat
  /-- Number of blocks that ran. -/
  covered : Nat
  entries : List ListedBlock
  deriving DecidableEq

def ListedCall.ofCall (registry : Registry) (call : Call) : ListedCall where
  id := call.id
  name := registry.nameOf call.id
  count := call.count
  time := call.time

/-- A block with its name and place. -/
def ListedBlock.ofBlock (registry : Registry) (block : BlockProfile) : ListedBlock where
  id := block.id
  name := registry.nameOf block.id
  location := registry.locationOf block.id
  count := block.count
  time := block.time
  selfTime := block.selfTime
  callers := block.callers.map (.ofCall registry)
  callees := block.callees.map (.ofCall registry)

/-- The listing of some blocks of a profile. -/
def Listing.ofProfile (source : String) (profile : Profile) (registry : Registry)
    (entries : List BlockProfile) : Listing where
  source := source
  totalTime := profile.totalTime
  blocks := profile.size
  covered := profile.covered
  entries := entries.map (.ofBlock registry)

/-! ## Documents -/

def ListedCall.document (call : ListedCall) : Json :=
  .object [
    ("id", .whole call.id.index),
    ("name", .text call.name),
    ("count", .whole call.count.value),
    ("time", .whole call.time.value)]

/-- A block as a JSON object.  Its share of the total is rounded to two places. -/
def ListedBlock.document (total : Count) (entry : ListedBlock) : Json :=
  .object [
    ("id", .whole entry.id.index),
    ("name", .text entry.name),
    ("location", .text entry.location),
    ("count", .whole entry.count.value),
    ("time", .whole entry.time.value),
    ("self_time", .whole entry.selfTime.value),
    ("time_pct", .number (roundToHundredths (percent entry.time total))),
    ("callers", .array (entry.callers.map (·.document))),
    ("callees", .array (entry.callees.map (·.document)))]

namespace Listing

def document (listing : Listing) : Json :=
  .object [
    ("source", .text listing.source),
    ("total_time", .whole listing.totalTime.value),
    ("blocks", .whole listing.blocks),
    ("covered", .whole listing.covered),
    ("entries", .array (listing.entries.map (·.document listing.totalTime)))]

def renderDocument (listing : Listing) : String :=
  listing.document.render ++ "\n"

/-! ## Tables -/

def columns : List Text.Column :=
  [⟨"COUNT", .right⟩, ⟨"TIME", .right⟩, ⟨"SELF", .right⟩, ⟨"TIME%", .right⟩,
    ⟨"BLOCK", .left⟩, ⟨"LOCATION", .left⟩]

def row (total : Count) (entry : ListedBlock) : List String :=
  [Decimal.grouped entry.count, Decimal.grouped entry.time,
    Decimal.grouped entry.selfTime, percentText entry.time total ++ "%",
    entry.id.label entry.name, entry.location]

/-- The line above the table, which ends with the time of day. -/
def summary (listing : Listing) (clock : String) : String :=
  "# " ++ listing.source ++ " | Blocks: " ++ toString listing.covered ++ " of " ++
    toString listing.blocks ++ " | Total time: " ++ Decimal.grouped listing.totalTime ++
    " | " ++ clock

def table (listing : Listing) : Text.Table where
  columns := columns
  rows := listing.entries.map (row listing.totalTime)

def renderTable (listing : Listing) (clock : String) : String :=
  listing.summary clock ++ "\n" ++ listing.table.render

/-! ## Records -/

/-- Names of the columns. -/
def header : List Csv.Field :=
  ["count", "time", "self_time", "time_pct", "id", "name", "location"].map .bare

def record (total : Count) (entry : ListedBlock) : List Csv.Field :=
  [.bare (toString entry.count), .bare (toString entry.time),
    .bare (toString entry.selfTime), .bare (percentText entry.time total),
    .bare (toString entry.id.index), .quoted entry.name, .quoted entry.location]

def records (listing : Listing) : List (List Csv.Field) :=
  header :: listing.entries.map (record listing.totalTime)

def renderRecords (listing : Listing) : String :=
  Csv.render listing.records

end Listing

end CallLedger
