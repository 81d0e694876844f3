import IndexAdvisor.Batch.Report

/-! # Measurements

What a run reports to a metrics service: the timings of each executed query, and its own totals.
-/

namespace IndexAdvisor

inductive Amount where
  | whole (n : Int)
  | real (x : Float)

def Amount.value : Amount → Value
  | .whole n => .int n
  | .real x => .float x

structure QueryMeasurement where
  id : String
  kind : String
  planning : Option Amount
  execution : Option Amount

structure RunMeasurement where
  total : Amount
  analysed : Amount
  unsupported : Amount
  seconds : Amount
  indexes : Amount
  riskColumns : Amount

def Run.measurements (run : Run) : List QueryMeasurement :=
  (run.results.filter (·.isSupported)).map fun result =>
    ⟨result.id, result.kind.name, result.planningTime.map .real, result.executionTime.map .real⟩

def Report.measurement (report : Report) : RunMeasurement :=
  { total := .whole report.total
    analysed := .whole report.analysedCount
    unsupported := .whole report.unsupportedCount
    seconds := .real report.seconds
    indexes := .whole report.indexes.length
    riskColumns := .whole report.riskCount }

end IndexAdvisor
