import ModelReach.Run.Collect
import ModelReach.Validation.Document

/-! The summary of a run in lines of text. -/
namespace ModelReach.Run
set_option autoImplicit false

def shortNames (names : List String) : String := ", ".intercalate (names.map Dotted.lastPart)

def detail (verbose : Bool) (line : String) : List String := if verbose then ["\t" ++ line] else []

def failureLines (verbose : Bool) (paths : List String) : List String :=
  if paths.isEmpty then []
  else
    ("Skipped " ++ paths.length.repr ++ " modules that failed to load.") ::
      paths.flatMap (detail verbose)

/-- The summary of a result, with the time that the run took in milliseconds. -/
def summaryLines (result : RunResult) (verbose : Bool) (elapsed : String) : List String :=
  ["Found " ++ result.entryTypes.length.repr ++ " entry models."] ++
    detail verbose (shortNames result.entryTypes) ++
    ["Found " ++ result.implementingModels.length.repr ++ " used models."] ++
    detail verbose (shortNames result.implementingModels) ++
    ["Generating " ++ result.models.length.repr ++ " models."] ++
    failureLines verbose result.failedModules ++
    ["Completed in " ++ elapsed ++ "ms."]

def resultOfJson : Json → Validation.Checked (RunResult × Binary64) :=
  Validation.instanceOf "CollectResult" fun fields =>
    (fun entries implementing models failed schemas elapsed =>
        (⟨entries, implementing, models, failed, schemas⟩, elapsed))
      <$> Validation.required fields "entry_types" strings
      <*> Validation.required fields "implementing_models" strings
      <*> Validation.required fields "models" strings
      <*> Validation.optional fields "failed_modules" [] strings
      <*> Validation.optional fields "schemas" [] (Validation.listOf Validation.document)
      <*> Validation.optional fields "elapsed_ms" Binary64.zero Validation.number
where
  strings : Json → Validation.Checked (List String) := Validation.listOf Validation.string

end ModelReach.Run
