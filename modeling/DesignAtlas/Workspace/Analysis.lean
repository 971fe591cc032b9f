import DesignAtlas.Design.Linking
import DesignAtlas.Source.Definition
import DesignAtlas.Source.Include
import DesignAtlas.Text.Utf8
import DesignAtlas.Workspace.Listing

/-!
# Analyzing a directory

An analysis reads every source of a listed directory, registers the modules they define, links
them, and collects the sources that they include. All reads are started at once and finish in any
order, which a schedule gives; a file that cannot be read is skipped.
-/

namespace DesignAtlas

/-- What is taken from the text of a source file. -/
structure Parsed where
  /-- The module definitions. -/
  definitions : List Source.Definition
  /-- The included names, with repeats. -/
  includedNames : List String
  deriving DecidableEq, Repr

/-- Read a source file's bytes. Broken UTF-8 is replaced. -/
def Parsed.ofBytes (bytes : List UInt8) : Parsed :=
  let text := Text.Utf8.decodeLossy bytes
  ⟨Source.definitions text, Source.includedNames text⟩

/-- The order in which reads finish that are started at once. -/
structure Schedule where
  /-- The places of so many reads, in the order they finish. -/
  order : (count : Nat) → List Nat
  /-- Every read finishes once. -/
  perm : ∀ count, (order count).Perm (List.range count)

/-- The reads finish in the order they are started. -/
def Schedule.inOrder : Schedule :=
  ⟨List.range, fun _ => .refl _⟩

/-- A finished read of one source file. -/
structure Arrival where
  /-- The place of the file in the list of sources. -/
  place : Nat
  /-- What was read, or why nothing was. -/
  outcome : Except FileFault Parsed

/-- A source file that some source file includes. -/
structure IncludedFile where
  /-- The name of the file. -/
  name : String
  /-- The path of the file. -/
  path : Path
  deriving DecidableEq, Repr

/-- Everything that an analysis finds out. -/
structure Analysis where
  /-- The names of the source files. -/
  sources : List String
  /-- The modules and their instantiations. -/
  registry : Registry
  /-- The included source files. -/
  includes : List IncludedFile
  /-- The files and directories that are shown. -/
  buckets : List Folder
  /-- The source files that could not be read. -/
  skipped : List Path

namespace Analysis

/-- The finished reads of the sources, in the order they finish. -/
def arrivals (storage : Storage) (schedule : Schedule) (sources : List Entry) : List Arrival :=
  (schedule.order sources.length).filterMap fun place =>
    sources[place]?.map fun source =>
      ⟨place, (storage.read source.path).map Parsed.ofBytes⟩

/-- Put what was read at the places of the files, whatever order it arrives in. -/
def slots (count : Nat) (arrivals : List Arrival) : List (Option Parsed) :=
  arrivals.foldl
    (fun slots arrival =>
      match arrival.outcome with
      | .ok parsed => slots.set arrival.place (some parsed)
      | .error _ => slots)
    (List.replicate count none)

/-- The sources that were read, in the order of the listing, with what was read. -/
def parsedSources (sources : List Entry) (arrivals : List Arrival) : List (Entry × Parsed) :=
  (sources.zip (slots sources.length arrivals)).filterMap fun slot =>
    slot.2.map fun parsed => (slot.1, parsed)

/-- The sources that could not be read, in the order of arrival, with the reasons. -/
def unreadable (sources : List Entry) (arrivals : List Arrival) : List (Path × FileFault) :=
  arrivals.filterMap fun arrival =>
    match arrival.outcome, sources[arrival.place]? with
    | .error fault, some source => some (source.path, fault)
    | _, _ => none

/-- The modules that the sources define, in the order of the sources and of their texts. -/
def definedModules (parsed : List (Entry × Parsed)) : List Module :=
  parsed.flatMap fun source =>
    source.2.definitions.map fun d =>
      { name := d.name, file := source.1.name, path := source.1.path, line := d.line,
        body := d.body }

/-- The registry of modules, linked. -/
def registryOf (modules : List Module) : Registry :=
  (modules.foldl (fun r m => (r.register m).1) Registry.empty).link

/-- The source files among the included names, each once, in the order of first mention. -/
def includedFiles (root : Path) (sources names : List String) : List IncludedFile :=
  ((names.filter fun name => sources.contains name).eraseDups).map fun name =>
    ⟨name, root.join name⟩

/-- The analysis of a directory with the given entries, with what the finished reads of its sources
brought. -/
def ofArrivals (root : Path) (entries : List Entry) (arrivals : List Arrival) : Analysis :=
  let sources := Listing.sources entries
  let names := sources.map Entry.name
  let parsed := parsedSources sources arrivals
  let includes := includedFiles root names (parsed.flatMap fun source => source.2.includedNames)
  { sources := names
    registry := registryOf (definedModules parsed)
    includes := includes
    buckets := Listing.buckets (includes.map fun file => (file.name, file.path)) entries
    skipped := (unreadable sources arrivals).map Prod.fst }

/-- The analysis of a directory with the given entries. -/
def ofEntries (storage : Storage) (schedule : Schedule) (root : Path) (entries : List Entry) :
    Analysis :=
  ofArrivals root entries (arrivals storage schedule (Listing.sources entries))

end Analysis

end DesignAtlas
