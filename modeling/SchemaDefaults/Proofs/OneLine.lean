import SchemaDefaults.Proofs.NestedNames
import SchemaDefaults.Text.Cut

/-! # Texts on one line

A text without a line end stays on one line, and so do the names that are made of it: camel
case and lower case bring in no line ends. Lines that are written one below the other are
found again where the text is split at its line ends.
-/

namespace SchemaDefaults

namespace Text

/-- There is no line end in a text. -/
def OneLine (text : String) : Prop :=
  '\n' ∉ text.toList

instance (text : String) : Decidable (OneLine text) :=
  inferInstanceAs (Decidable (¬_))

@[simp] theorem oneLine_append {first second : String} :
    OneLine (first ++ second) ↔ OneLine first ∧ OneLine second := by
  simp [OneLine]

theorem oneLine_intercalate {path : List String} (clean : ∀ name ∈ path, OneLine name) :
    OneLine (String.intercalate "_" path) := by
  rcases eq_or_ne path [] with rfl | nonempty
  · exact List.not_mem_nil
  · have seam : OneLine "_" := by decide
    refine GoName.intercalate_of_join nonempty clean fun name member joined behind => ?_
    rw [oneLine_append, oneLine_append]
    exact ⟨⟨clean name member, seam⟩, behind⟩

theorem toNat_ofNat_cases (code : Nat) :
    (Char.ofNat code).toNat = code ∨ (Char.ofNat code).toNat = 0 := by
  unfold Char.ofNat
  by_cases valid : code.isValidChar
  · rw [dif_pos valid]
    exact .inl rfl
  · rw [dif_neg valid]
    exact .inr rfl

/-- Lower case moves no character to the code point of a line end. -/
theorem newline_not_mem_lower {c : Char} (other : c ≠ '\n') : '\n' ∉ lower c := by
  have beyond : caseRuns.all (fun run => decide (10 < (run.first : Int) + run.shift)) = true := by
    decide +kernel
  rw [lower]
  split
  · decide
  · split
    case h_1 run found =>
      have inside : run ∈ caseRuns := List.mem_of_find?_eq_some found
      have covered := List.find?_some found
      have low : 10 < (run.first : Int) + run.shift := by
        simpa using List.all_eq_true.mp beyond run inside
      have reached : run.first ≤ c.toNat := by
        simp only [CaseRun.covers, Bool.and_eq_true, decide_eq_true_eq] at covered
        exact covered.1.1
      rw [List.mem_singleton]
      intro same
      have ten : (Char.ofNat (c.toNat + run.shift).toNat).toNat = 10 := congrArg Char.toNat same.symm
      have code := toNat_ofNat_cases (c.toNat + run.shift).toNat
      omega
    case h_2 => simpa using Ne.symm other

/-- The parts of a text between its line ends. -/
def linesOf (text : String) : List String :=
  (split '\n' text.toList).map String.ofList

/-- Lines that all end are found again, and behind the last of them there is nothing. -/
theorem linesOf_join {lines : List String} (clean : ∀ line ∈ lines, OneLine line) :
    linesOf (String.join (lines.map (· ++ "\n"))) = lines ++ [""] := by
  induction lines with
  | nil => rfl
  | cons line rest ih =>
      obtain ⟨first, others⟩ := List.forall_mem_cons.mp clean
      have spelled : (String.join ((line :: rest).map (· ++ "\n"))).toList =
          line.toList ++ '\n' :: (String.join (rest.map (· ++ "\n"))).toList := by
        simp
      have found := ih others
      rw [linesOf] at found
      rw [linesOf, spelled, split_append_mark, split_of_not_mem first, List.map_append, found]
      simp

end Text

namespace GoName

open Text

theorem oneLine_camel {name : String} (clean : OneLine name) : OneLine (camel name) := by
  intro member
  rcases mem_camel member with inside | capital
  · exact clean inside
  · cases capital

theorem oneLine_ofPath {path : List String} (clean : ∀ name ∈ path, OneLine name) :
    OneLine (ofPath path) :=
  oneLine_camel (oneLine_intercalate clean)

theorem oneLine_ofField {name : String} (clean : OneLine name) : OneLine (ofField name) := by
  have cased := oneLine_camel clean
  by_cases taken : camel name ∈ reserved
  · rw [ofField_of_reserved taken, oneLine_append]
    exact ⟨cased, by decide⟩
  · rw [ofField_of_free taken]
    exact cased

theorem oneLine_receiver {typeName : String} (clean : OneLine typeName) :
    OneLine (receiver typeName) := by
  rw [receiver]
  split
  case h_1 => exact List.not_mem_nil
  case h_2 c rest spelled =>
    rw [OneLine, spelled] at clean
    rw [OneLine, String.toList_ofList]
    exact newline_not_mem_lower fun same => clean (same ▸ List.mem_cons_self)

end GoName

end SchemaDefaults
