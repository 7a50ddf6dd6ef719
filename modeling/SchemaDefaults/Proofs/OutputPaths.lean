import Mathlib.Data.List.Induction
import SchemaDefaults.Command.Generate
import SchemaDefaults.Proofs.Components

/-! # Settling the output paths

The paths of the generated files are settled in the order of the schema files. Either all of
them go down from the output directory and are different from each other, or the first schema
file for which this fails is reported, and no output is planned at all.
-/

namespace SchemaDefaults.Command

/-- Where the code generated for a schema file goes, below the output directory. -/
def outputPath (suffix schemaFile : String) : Path :=
  ⟨outputFileName schemaFile suffix⟩

/-- Why a schema file is refused, given the schema files before it. -/
inductive Refused (suffix : String) (before : List String) (schemaFile : String) :
    CommandError → Prop where
  | outside (leaves : (outputPath suffix schemaFile).Leaves) :
      Refused suffix before schemaFile (.outside (outputPath suffix schemaFile).text)
  | taken {other : String} (inside : ¬(outputPath suffix schemaFile).Leaves)
      (earlier : other ∈ before)
      (same : (outputPath suffix other).components = (outputPath suffix schemaFile).components) :
      Refused suffix before schemaFile (.taken schemaFile (outputPath suffix schemaFile).text)

/-- Schema files whose code goes to different paths inside the output directory. -/
structure Acceptable (suffix : String) (schemaFiles : List String) : Prop where
  inside : ∀ schemaFile ∈ schemaFiles, ¬(outputPath suffix schemaFile).Leaves
  different : schemaFiles.Pairwise fun one other =>
    (outputPath suffix one).components ≠ (outputPath suffix other).components

namespace Acceptable

variable {suffix : String}

theorem nil : Acceptable suffix [] :=
  ⟨by simp, .nil⟩

theorem plain {schemaFiles : List String} (acceptable : Acceptable suffix schemaFiles)
    {schemaFile : String} (member : schemaFile ∈ schemaFiles) :
    (outputPath suffix schemaFile).isPlain = true :=
  (Path.isPlain_iff _).mpr (acceptable.inside schemaFile member)

theorem front {before after : List String} (acceptable : Acceptable suffix (before ++ after)) :
    Acceptable suffix before :=
  ⟨fun schemaFile member => acceptable.inside schemaFile (List.mem_append_left after member),
    (List.pairwise_append.mp acceptable.different).1⟩

/-- One more schema file is acceptable, or it is refused. -/
theorem step {before : List String} (acceptable : Acceptable suffix before)
    (schemaFile : String) :
    Acceptable suffix (before ++ [schemaFile]) ∨
      ∃ error, Refused suffix before schemaFile error := by
  by_cases leaves : (outputPath suffix schemaFile).Leaves
  · exact .inr ⟨_, .outside leaves⟩
  · by_cases taken : ∃ other ∈ before,
        (outputPath suffix other).components = (outputPath suffix schemaFile).components
    · obtain ⟨other, earlier, same⟩ := taken
      exact .inr ⟨_, .taken leaves earlier same⟩
    · refine .inl ⟨?_, ?_⟩
      · intro one member
        obtain earlier | last := List.mem_append.mp member
        · exact acceptable.inside one earlier
        · rw [List.mem_singleton.mp last]
          exact leaves
      · refine List.pairwise_append.mpr ⟨acceptable.different, List.pairwise_singleton _ _, ?_⟩
        intro one earlier last found same
        rw [List.mem_singleton.mp found] at same
        exact taken ⟨one, earlier, same⟩

/-- A schema file that is refused after others is not acceptable together with them. -/
theorem not_of_refused {before : List String} {schemaFile : String} {error : CommandError}
    (refused : Refused suffix before schemaFile error) (after : List String) :
    ¬Acceptable suffix (before ++ schemaFile :: after) := by
  intro acceptable
  cases refused with
  | outside leaves => exact acceptable.inside schemaFile (by simp) leaves
  | taken inside earlier same =>
      have apart := (List.pairwise_append.mp acceptable.different).2.2
      exact apart _ earlier _ List.mem_cons_self same

end Acceptable

/-- Schema files are not acceptable exactly when there is a first among them that is refused. -/
theorem not_acceptable_iff (suffix : String) (schemaFiles : List String) :
    ¬Acceptable suffix schemaFiles ↔ ∃ before schemaFile after error,
      schemaFiles = before ++ schemaFile :: after ∧ Acceptable suffix before ∧
      Refused suffix before schemaFile error := by
  constructor
  · intro unacceptable
    -- Looking at the last schema file keeps those before it as they are.
    induction schemaFiles using List.reverseRecOn with
    | nil => exact absurd .nil unacceptable
    | append_singleton front last ih =>
        by_cases acceptable : Acceptable suffix front
        · obtain all | ⟨error, refused⟩ := acceptable.step last
          · exact absurd all unacceptable
          · exact ⟨front, last, [], error, rfl, acceptable, refused⟩
        · obtain ⟨before, schemaFile, after, error, rfl, first, refused⟩ := ih acceptable
          exact ⟨before, schemaFile, after ++ [last], error, by simp, first, refused⟩
  · rintro ⟨before, schemaFile, after, error, rfl, -, refused⟩
    exact Acceptable.not_of_refused refused after

/-! ## The plan -/

/-- What is planned for a schema file and its text. -/
def planned (directory : Path) (suffix : String) (file : String × String) : Output :=
  ⟨file.1, directory.join (outputPath suffix file.1), file.2⟩

/-- The paths that are taken after some schema files, the latest first. -/
def takenBy (directory : Path) (suffix : String) (schemaFiles : List String) :
    List (List Component) :=
  (schemaFiles.map fun one => (directory.join (outputPath suffix one)).components).reverse

theorem mem_takenBy {suffix : String} {before : List String} (acceptable : Acceptable suffix before)
    {schemaFile : String} (inside : ¬(outputPath suffix schemaFile).Leaves) (directory : Path) :
    (directory.join (outputPath suffix schemaFile)).components ∈ takenBy directory suffix before ↔
      ∃ other ∈ before,
        (outputPath suffix other).components = (outputPath suffix schemaFile).components := by
  have plain := (Path.isPlain_iff _).mpr inside
  simp only [takenBy, List.mem_reverse, List.mem_map]
  refine exists_congr fun other => and_congr_right fun earlier => ?_
  rw [Path.components_join plain, Path.components_join (acceptable.plain earlier),
    Path.components_of_isPlain plain, Path.components_of_isPlain (acceptable.plain earlier),
    List.append_cancel_left_eq]

/-- A schema file that is acceptable after those before it takes its path. -/
theorem planOutputs_cons {suffix : String} {before : List String} {file : String × String}
    (acceptable : Acceptable suffix (before ++ [file.1])) (directory : Path)
    (rest : List (String × String)) :
    planOutputs directory suffix (takenBy directory suffix before) (file :: rest) =
      (planOutputs directory suffix (takenBy directory suffix (before ++ [file.1])) rest).map
        (planned directory suffix file :: ·) := by
  have plain := acceptable.plain (List.mem_append_right before (List.mem_singleton_self _))
  have inside := acceptable.inside file.1 (List.mem_append_right before (List.mem_singleton_self _))
  have free : (directory.join (outputPath suffix file.1)).components ∉
      takenBy directory suffix before := by
    intro taken
    obtain ⟨other, earlier, same⟩ := (mem_takenBy acceptable.front inside directory).mp taken
    have apart := (List.pairwise_append.mp acceptable.different).2.2
    exact apart other earlier _ (List.mem_singleton_self _) same
  have grown : takenBy directory suffix (before ++ [file.1]) =
      (directory.join (outputPath suffix file.1)).components ::
        takenBy directory suffix before := by
    simp [takenBy]
  simp only [outputPath] at plain free grown
  simp only [planOutputs, plain, free, grown, Bool.not_true, Bool.false_eq_true, if_false]
  cases planOutputs directory suffix _ rest with
  | error cause => rfl
  | ok others => rfl

/-- Acceptable schema files are planned one by one, in their order. -/
theorem planOutputs_after {suffix : String} {before : List String}
    {texts : List (String × String)}
    (acceptable : Acceptable suffix (before ++ texts.map (·.1))) (directory : Path) :
    planOutputs directory suffix (takenBy directory suffix before) texts =
      .ok (texts.map (planned directory suffix)) := by
  induction texts generalizing before with
  | nil => rfl
  | cons file rest ih =>
      rw [List.map_cons, List.append_cons] at acceptable
      rw [planOutputs_cons acceptable.front, ih acceptable]
      rfl

theorem planOutputs_of_acceptable {suffix : String} {texts : List (String × String)}
    (acceptable : Acceptable suffix (texts.map (·.1))) (directory : Path) :
    planOutputs directory suffix [] texts = .ok (texts.map (planned directory suffix)) :=
  @planOutputs_after suffix [] texts acceptable directory

/-- The first schema file that is refused ends the planning. -/
theorem planOutputs_until {suffix : String} {before between after : List String}
    {schemaFile : String} {error : CommandError} {texts : List (String × String)}
    (named : texts.map (·.1) = between ++ schemaFile :: after)
    (acceptable : Acceptable suffix (before ++ between))
    (refused : Refused suffix (before ++ between) schemaFile error) (directory : Path) :
    planOutputs directory suffix (takenBy directory suffix before) texts = .error error := by
  induction texts generalizing before between with
  | nil => simp at named
  | cons file rest ih =>
      cases between with
      | nil =>
          rw [List.map_cons, List.nil_append, List.cons.injEq] at named
          obtain ⟨rfl, -⟩ := named
          rw [List.append_nil] at acceptable refused
          cases refused with
          | outside leaves =>
              have refusal : (outputPath suffix file.1).isPlain = false := by
                rw [← Bool.not_eq_true, Path.isPlain_iff, not_not]
                exact leaves
              simp only [outputPath] at refusal ⊢
              simp only [planOutputs, refusal, Bool.not_false, if_true]
          | taken inside earlier same =>
              have plain := (Path.isPlain_iff _).mpr inside
              have used := (mem_takenBy acceptable inside directory).mpr ⟨_, earlier, same⟩
              simp only [outputPath] at plain used ⊢
              simp only [planOutputs, plain, used, Bool.not_true, Bool.false_eq_true, if_false,
                if_true]
      | cons first between =>
          rw [List.map_cons, List.cons_append, List.cons.injEq] at named
          obtain ⟨rfl, others⟩ := named
          rw [List.append_cons] at acceptable refused
          rw [planOutputs_cons acceptable.front, ih others acceptable refused]
          rfl

theorem planOutputs_of_refused {suffix : String} {before after : List String} {schemaFile : String}
    {error : CommandError} {texts : List (String × String)}
    (named : texts.map (·.1) = before ++ schemaFile :: after)
    (acceptable : Acceptable suffix before) (refused : Refused suffix before schemaFile error)
    (directory : Path) : planOutputs directory suffix [] texts = .error error :=
  @planOutputs_until suffix [] before after schemaFile error texts named acceptable refused
    directory

/-! ## The targets of a plan -/

/-- The planned paths mean different things. -/
theorem targets_different {suffix : String} {texts : List (String × String)}
    (acceptable : Acceptable suffix (texts.map (·.1))) (directory : Path) :
    ((texts.map (planned directory suffix)).map (·.path.components)).Nodup := by
  rw [List.map_map]
  refine List.pairwise_map.mpr ((List.pairwise_map.mp acceptable.different).imp_of_mem ?_)
  intro one other first second apart same
  have plainOne := acceptable.plain (List.mem_map_of_mem first)
  have plainOther := acceptable.plain (List.mem_map_of_mem second)
  simp only [Function.comp_apply, planned] at same
  rw [Path.components_join plainOne, Path.components_join plainOther,
    ← Path.components_of_isPlain plainOne, ← Path.components_of_isPlain plainOther,
    List.append_cancel_left_eq] at same
  exact apart same

/-- A planned path is the output directory with at least one name after it, if the suffix is not
    blank. -/
theorem target_inside {suffix : String} (notBlank : Text.isBlank suffix = false)
    {file : String × String} (inside : ¬(outputPath suffix file.1).Leaves) (directory : Path) :
    ∃ names : List String, names ≠ [] ∧
      (planned directory suffix file).path.components =
        directory.components ++ names.map .plain := by
  have plain := (Path.isPlain_iff _).mpr inside
  refine ⟨(outputPath suffix file.1).names, Path.names_ne_nil plain ?_,
    Path.components_join plain directory⟩
  intro nothing
  obtain ⟨-, noSuffix⟩ := String.append_eq_empty_iff.mp nothing
  rw [noSuffix] at notBlank
  simp [Text.isBlank] at notBlank

end SchemaDefaults.Command
