import ModelTables.Report.Basic
import ModelTables.Connection.Gate

/-! # Reports of gate scripts

A reply is reported as `{ok: value}` and a failure as the failure itself; each
step is reported with its events, whether the gate is open, and its log.
-/

namespace ModelTables.Report

/-- The report of a reply or failure. -/
def gateReply : Except Failure GateReply → Value
  | .ok .done => .obj [("ok", .null)]
  | .ok (.flag b) => .obj [("ok", .bool b)]
  | .ok (.connection a) => .obj [("ok", .string a)]
  | .ok (.aliases as) => .obj [("ok", texts as)]
  | .error f => failure f

/-- The report of one step. -/
def gateRecord (r : GateRecord) : Value :=
  .obj [("result", match r.outcome with
      | .one reply => gateReply reply
      | .together replies => .array (replies.map gateReply)),
    ("events", texts r.events), ("initialized", .bool r.initialized), ("logs", logs r.logs)]

end ModelTables.Report
