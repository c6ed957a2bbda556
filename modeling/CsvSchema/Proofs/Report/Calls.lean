import CsvSchema.Decimal.Natural
import CsvSchema.Report.Basic

/-!
# Calls that make a report

A report is made by calls, each of which adds a message.  What is true of the report without
messages, and is kept by every call of some kind, is true of every report that such calls make,
`Report.ofCalls_induction`.
-/

namespace CsvSchema

namespace Report

/-- A call that adds a message to a report. -/
inductive Call where
  | push (row : Nat) (column : String) (severity : Severity) (message : String)
  | pushFile (severity : Severity) (message : String)
  deriving Repr, DecidableEq

/-- The report after a call. -/
def add (report : Report) : Call → Report
  | .push row column severity message => report.push row column severity message
  | .pushFile severity message => report.pushFile severity message

/-- The report that some calls make. -/
def ofCalls (calls : List Call) : Report := calls.foldl add .empty

theorem ofCalls_induction {holds : Report → Prop} {allowed : Call → Prop}
    (hempty : holds .empty)
    (hadd : ∀ report call, allowed call → holds report → holds (report.add call))
    {calls : List Call} (hcalls : ∀ call ∈ calls, allowed call) : holds (ofCalls calls) := by
  suffices hfrom : ∀ report, holds report → holds (calls.foldl add report) from
    hfrom .empty hempty
  induction calls with
  | nil => exact fun _ h => h
  | cons call rest ih =>
      obtain ⟨hcall, hrest⟩ := List.forall_mem_cons.1 hcalls
      exact fun report h => ih hrest _ (hadd report call hcall h)

/-- The numbers of all rows fit into 64 bits. -/
def RowsFit (report : Report) : Prop := ∀ e ∈ report.rows.entries, e.1 ≤ Decimal.maxWord64

/-- The number of the row of a call, if it has one, fits into 64 bits. -/
def Call.RowFits : Call → Prop
  | .push row _ _ _ => row ≤ Decimal.maxWord64
  | .pushFile _ _ => True

theorem RowsFit.add {report : Report} (h : report.RowsFit) {call : Call} (hcall : call.RowFits) :
    (report.add call).RowsFit := by
  cases call with
  | push row column severity message =>
      intro e he
      rcases fst_of_mem_alterEntry he with hrow | ⟨d, hd, hrow⟩
      · exact hrow ▸ hcall
      · exact hrow ▸ h d hd
  | pushFile severity message => exact h

theorem rowsFit_ofCalls {calls : List Call} (h : ∀ call ∈ calls, call.RowFits) :
    (ofCalls calls).RowsFit :=
  ofCalls_induction (fun _ he => nomatch he) (fun _ _ hcall hreport => hreport.add hcall) h

end Report

end CsvSchema
