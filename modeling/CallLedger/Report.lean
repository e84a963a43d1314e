import CallLedger.Ranking

/-!
# Text reports

A report has a coverage summary, a flat profile, the call graph with callers and
callees around each block, the blocks that never ran and the locations of all
registered blocks.  What each section lists is decided by `Report.ofProfile`; the
rendering adds names and columns.
-/

namespace CallLedger

/-- One block of the call graph section with the calls shown around it. -/
structure ReportEntry where
  /-- Callers that are left out. -/
  omittedCallers : Nat
  /-- Callers shown, by ascending time. -/
  callers : List Call
  block : Call
  /-- Callees shown, by descending time. -/
  callees : List Call
  /-- Callees that are left out. -/
  omittedCallees : Nat
  deriving DecidableEq

structure Report where
  size : Nat
  covered : Nat
  totalTime : Count
  flat : List BlockProfile
  entries : List ReportEntry
  uncovered : List BlockId
  locations : List (BlockId × Block)
  deriving DecidableEq

namespace ReportEntry

/-- Callers by ascending time; of equal times the first recorded comes first. -/
def ascending (calls : List Call) : List Call :=
  calls.mergeSort fun left right => decide (left.time ≤ right.time)

/-- Callees by descending time; of equal times the first recorded comes first. -/
def descending (calls : List Call) : List Call :=
  calls.mergeSort fun left right => decide (right.time ≤ left.time)

/-- How many of a number of calls are shown. -/
def shown (limit : Option Nat) (calls : Nat) : Nat :=
  match limit with
  | none => calls
  | some most => min most calls

/-- The entry of a block with at most `limit` callers and callees, those of the
longest times. -/
def ofBlock (limit : Option Nat) (block : BlockProfile) : ReportEntry :=
  let omittedCallers := block.callers.length - shown limit block.callers.length
  let shownCallees := shown limit block.callees.length
  { omittedCallers
    callers := (ascending block.callers).drop omittedCallers
    block := block.toCall
    callees := (descending block.callees).take shownCallees
    omittedCallees := block.callees.length - shownCallees }

end ReportEntry

namespace Report

/-- The report of a profile, with at most `limit` callers and callees per block. -/
def ofProfile (profile : Profile) (registry : Registry) (limit : Option Nat) : Report where
  size := profile.size
  covered := profile.covered
  totalTime := profile.totalTime
  flat := profile.byTime
  entries :=
    (profile.byTime.filter (0 < ·.count)).map (ReportEntry.ofBlock limit)
  uncovered := (profile.blocks.filter (·.count = 0)).map (·.id)
  locations := registry.entries

def alignRight (width : Nat) (text : String) : String :=
  String.ofList (text.toList.leftpad width ' ')

/-- Column for the share of the total. -/
def share (total : Count) (time : Count) : String :=
  alignRight 6 (percentText time total) ++ "%"

/-- A heading and the line under it. -/
def heading (title : String) : List String :=
  [title, String.ofList (List.replicate title.length '-')]

/-- A line of the flat profile. -/
def flatLine (registry : Registry) (total : Count) (block : BlockProfile) : String :=
  "** " ++ alignRight 8 (toString block.count) ++ " " ++
    alignRight 8 (toString block.time) ++ " " ++
    alignRight 8 (toString block.selfTime) ++ " " ++
    share total block.time ++ "  " ++ registry.label block.id ++ " **"

/-- A line of the call graph, marked if it stands for the entry's own block. -/
def callLine (registry : Registry) (total : Count) (marked : Bool) (call : Call) : String :=
  let mark := if marked then "**" else "  "
  mark ++ " " ++ alignRight 8 (toString call.count) ++ " " ++
    alignRight 8 (toString call.time) ++ " " ++
    share total call.time ++ "  " ++ registry.label call.id ++ " " ++ mark

/-- The line that stands for calls left out, if there are any. -/
def omissionLine (omitted : Nat) : List String :=
  if omitted = 0 then [] else ["   ... " ++ toString omitted ++ " more"]

/-- The line under each entry of the call graph. -/
def separator : String :=
  "-------------------------------"

/-- Lines of one entry of the call graph. -/
def entryLines (registry : Registry) (total : Count) (entry : ReportEntry) : List String :=
  omissionLine entry.omittedCallers ++
    entry.callers.map (callLine registry total false) ++
    callLine registry total true entry.block ::
    entry.callees.map (callLine registry total false) ++
    omissionLine entry.omittedCallees ++ [separator]

def summaryLines (report : Report) : List String :=
  let blocks := percentText (.ofNat report.covered) (.ofNat report.size)
  ["Profile Report",
    "==============",
    "blocks executed: " ++ blocks ++ "% of " ++ toString report.size,
    "total time: " ++ toString report.totalTime,
    ""]

def flatLines (report : Report) (registry : Registry) : List String :=
  heading "Flat Profile" ++
    "      count     time     self   time%  block" ::
    report.flat.map (flatLine registry report.totalTime) ++ [""]

def graphLines (report : Report) (registry : Registry) : List String :=
  heading "Call Graph" ++
    "      count     time   time%  block" ::
    report.entries.flatMap (entryLines registry report.totalTime) ++ [""]

/-- Lines of the blocks that never ran. -/
def uncoveredLines (report : Report) (registry : Registry) : List String :=
  heading "Uncovered Blocks" ++ report.uncovered.map registry.label ++ [""]

def locationLines (report : Report) (registry : Registry) : List String :=
  heading "Block Locations" ++
    (report.locations.map fun (id, block) =>
      registry.label id ++ ": " ++ block.location.display) ++ [""]

def lines (report : Report) (registry : Registry) : List String :=
  report.summaryLines ++ report.flatLines registry ++ report.graphLines registry ++
    report.uncoveredLines registry ++ report.locationLines registry

def render (report : Report) (registry : Registry) : String :=
  String.join ((report.lines registry).map (· ++ "\n"))

end Report

end CallLedger
