import RecordSearch.Command.Run

/-!
What the commands that work on one type report, once its registry is there and the records are read
(`run_withRegistry`, `run_withRecords`). Warnings go to standard error, so what is printed depends
on the registry and the records alone (`prints_index`, `prints_compile`, `prints_search`).
-/

namespace RecordSearch.Command

open RecordSearch.Query

/-- What a command finds: the directory it runs in, its standard input, and the files. -/
structure Workspace where
  directory : List String
  input : String
  tree : FileTree

namespace Workspace

variable (w : Workspace)

def run {α : Type} (p : Program α) : α := (p.onTree w.directory w.input w.tree).1

/-- The text at the path is JSON, and says `value`. -/
def Holds (path : String) (value : Json) : Prop :=
  ∃ text, w.run (readText path) = .ok text ∧ Json.read? text = some value

/-- What running a task leaves behind. -/
def report (loaded : LoadedConfig) (task : Task) : Report := w.run (runTask loaded task)

/-- The task succeeds, and prints `value` and nothing else. -/
def Prints (loaded : LoadedConfig) (task : Task) (value : Json) : Prop :=
  (w.report loaded task).code = 0 ∧ (w.report loaded task).out = value.text ++ "\n"

variable {w}

theorem run_withRecords {path : String} {value : Json} (h : w.Holds path value)
    (next : List Json → Report) : w.run (withRecords path next) = next (recordsOf value) := by
  obtain ⟨text, hread, hvalue⟩ := h
  unfold run at hread
  show (Program.onTree w.directory w.input ((readText path).bind _) w.tree).1 = _
  rw [Program.onTree_bind, hread]
  simp only [hvalue]
  rfl

theorem run_withRegistry {c : Config} {type : String} {r : FieldRegistry}
    (h : c.schema.registry type = .ok r) (next : FieldRegistry → Program Report) :
    ∃ warnings, w.run (withRegistry c type next) = (w.run (next r)).after warnings := by
  obtain ⟨catalog, hanswer⟩ : ∃ catalog, c.catalog.registry type = (.ok r, catalog) :=
    ⟨_, Prod.ext h rfl⟩
  refine ⟨newRedeclarations c.catalog catalog, ?_⟩
  unfold withRegistry
  rw [hanswer]
  show (Program.onTree w.directory w.input ((next r).bind _) w.tree).1 = _
  rw [Program.onTree_bind]
  rfl

section

variable {loaded : LoadedConfig} {type path : String} {r : FieldRegistry}
  (hr : loaded.config.schema.registry type = .ok r)

include hr

theorem report_index {value : Json} (hvalue : w.Holds path value) :
    ∃ warnings, w.report loaded (.index type path) =
      (indexReport loaded.config r (recordsOf value)).after warnings := by
  obtain ⟨warnings, hrun⟩ := run_withRegistry (w := w) hr
    fun r => withRecords path (indexReport loaded.config r)
  rw [run_withRecords hvalue] at hrun
  exact ⟨warnings, hrun⟩

theorem prints_index {value : Json} (hvalue : w.Holds path value) {indexed : List Json}
    (hindexed : indexRecords loaded.config r (recordsOf value) = .ok indexed) :
    w.Prints loaded (.index type path) (.array indexed) := by
  obtain ⟨warnings, hreport⟩ := report_index hr hvalue
  unfold Prints
  rw [hreport, indexReport, hindexed]
  exact ⟨rfl, rfl⟩

theorem prints_compile (query : String) :
    w.Prints loaded (.compile type query false)
      (.array ((compile r.lookup query).map Pattern.toJson)) := by
  obtain ⟨warnings, hrun⟩ := run_withRegistry (w := w) hr
    fun r => return compileReport query false r
  unfold Prints report runTask
  rw [hrun]
  exact ⟨rfl, rfl⟩

theorem prints_search {value : Json} (hvalue : w.Holds path value) (query : String)
    (tokens : Bool) :
    w.Prints loaded (.search type path query tokens)
      (.array ((searchRecords loaded.config r query (recordsOf value)).map (found tokens))) := by
  obtain ⟨warnings, hrun⟩ := run_withRegistry (w := w) hr
    fun r => withRecords path (searchReport loaded.config query tokens r)
  rw [run_withRecords hvalue] at hrun
  unfold Prints report runTask
  rw [hrun]
  exact ⟨rfl, rfl⟩

end

end Workspace

end RecordSearch.Command
