import SchemaDefaults.Proofs.Decoding

/-! # The first of several complaints

A check that stops at the first thing it complains of has an order of places in mind, though
the order is only in the way it walks. Here the order is given beside the walk: `First` says
what stands before everything else that could be complained of, and a list in that order shows
that it is what the check reports.
-/

namespace SchemaDefaults

variable {π β : Type}

/-- Of all that stands at places, this stands before everything else. -/
structure First (before : π → π → Prop) (stands : π → β → Prop) (place : π) (what : β) : Prop where
  present : stands place what
  leads : ∀ other what', stands other what' → other = place ∨ before place other

/-- Entries in the order of their places are all that stands anywhere. -/
structure Lists (before : π → π → Prop) (stands : π → β → Prop) (entries : List (π × β)) :
    Prop where
  ordered : entries.Pairwise fun earlier later => before earlier.1 later.1
  mem_iff : ∀ place what, (place, what) ∈ entries ↔ stands place what

/-- Fails with the first entry. -/
def reportFirst : List (π × β) → Except β Unit
  | [] => .ok ()
  | (_, what) :: _ => .error what

theorem reportFirst_append (left right : List (π × β)) :
    reportFirst (left ++ right) = (do reportFirst left; reportFirst right) := by
  cases left with
  | nil => rfl
  | cons entry rest => rfl

theorem reportFirst_ok_iff {entries : List (π × β)} :
    reportFirst entries = .ok () ↔ ∀ place what, (place, what) ∉ entries := by
  cases entries with
  | nil => simp [reportFirst]
  | cons entry rest =>
      simp only [reportFirst, reduceCtorEq, false_iff, not_forall, not_not]
      exact ⟨entry.1, entry.2, List.mem_cons_self⟩

/-- A complaint, if something is wrong. -/
def complainIf (wrong : Bool) (place : π) (what : β) : List (π × β) :=
  if wrong then [(place, what)] else []

theorem reportFirst_complainIf (wrong : Bool) (place : π) (what : β) :
    reportFirst (complainIf wrong place what) = if wrong then .error what else .ok () := by
  cases wrong with
  | true => rfl
  | false => rfl

theorem mem_complainIf {wrong : Bool} {place other : π} {what said : β} :
    (other, said) ∈ complainIf wrong place what ↔ wrong = true ∧ other = place ∧ said = what := by
  cases wrong with
  | true => simp [complainIf]
  | false => simp [complainIf]

theorem pairwise_complainIf (relation : π × β → π × β → Prop) (wrong : Bool) (place : π)
    (what : β) : (complainIf wrong place what).Pairwise relation := by
  cases wrong with
  | true => exact List.pairwise_singleton _ _
  | false => exact .nil

theorem pairwise_zipIdx {α : Type} (items : List α) :
    items.zipIdx.Pairwise fun earlier later => earlier.2 < later.2 := by
  apply List.pairwise_map.mp
  rw [List.zipIdx_map_snd]
  exact List.pairwise_lt_range'

/-- Complaints about things are in order if the things are. -/
theorem pairwise_complaints {α : Type} {before : π → π → Prop} {items : List α} {place : α → π}
    (wrong : α → Bool) (what : α → β)
    (ordered : items.Pairwise fun earlier later => before (place earlier) (place later)) :
    (items.flatMap fun item => complainIf (wrong item) (place item) (what item)).Pairwise
      fun earlier later => before earlier.1 later.1 := by
  refine List.pairwise_flatMap.mpr ⟨fun _ _ => pairwise_complainIf _ _ _ _, ordered.imp ?_⟩
  intro earlier later less x inEarlier y inLater
  rwa [(mem_complainIf.mp inEarlier).2.1, (mem_complainIf.mp inLater).2.1]

namespace Lists

variable {before : π → π → Prop} {stands : π → β → Prop} {entries : List (π × β)}

/-- What stands first is at the head of the list: another entry at the head would have to stand
    both before and behind it. -/
theorem head_of_first (lists : Lists before stands entries)
    (asymm : ∀ {a b}, before a b → ¬before b a) {place : π} {what : β}
    (first : First before stands place what) : ∃ rest, entries = (place, what) :: rest := by
  have member := (lists.mem_iff place what).mpr first.present
  cases entries with
  | nil => cases member
  | cons head rest =>
      obtain ⟨ordered, _⟩ := List.pairwise_cons.mp lists.ordered
      cases List.mem_cons.mp member with
      | inl same => exact ⟨rest, by rw [same]⟩
      | inr later =>
          have ahead : before head.1 place := ordered _ later
          have present := (lists.mem_iff head.1 head.2).mp List.mem_cons_self
          cases first.leads _ _ present with
          | inl same =>
              rw [same] at ahead
              exact absurd ahead (asymm ahead)
          | inr behind => exact absurd behind (asymm ahead)

theorem first_of_head {place : π} {what : β} {rest : List (π × β)}
    (lists : Lists before stands ((place, what) :: rest)) :
    First before stands place what := by
  refine ⟨(lists.mem_iff _ _).mp List.mem_cons_self, ?_⟩
  intro other what' present
  obtain ⟨ordered, _⟩ := List.pairwise_cons.mp lists.ordered
  cases List.mem_cons.mp ((lists.mem_iff other what').mpr present) with
  | inl same => exact .inl (congrArg Prod.fst same)
  | inr later => exact .inr (ordered _ later)

theorem reportFirst_error_iff (lists : Lists before stands entries)
    (asymm : ∀ {a b}, before a b → ¬before b a) {what : β} :
    reportFirst entries = .error what ↔ ∃ place, First before stands place what := by
  constructor
  · intro reported
    cases entries with
    | nil => cases reported
    | cons entry rest =>
        obtain ⟨place, found⟩ := entry
        obtain rfl := Except.error.inj reported
        exact ⟨place, lists.first_of_head⟩
  · intro found
    obtain ⟨place, first⟩ := found
    obtain ⟨rest, rfl⟩ := lists.head_of_first asymm first
    rfl

/-- The first entry is reported as a failure of some kind. -/
theorem mapError_reportFirst_iff {ε : Type} (lists : Lists before stands entries)
    (asymm : ∀ {a b}, before a b → ¬before b a) {report : β → ε} {failure : ε} :
    (reportFirst entries).mapError report = .error failure ↔
      ∃ place what, First before stands place what ∧ failure = report what := by
  simp only [mapError_error_iff, lists.reportFirst_error_iff asymm]
  constructor
  · intro refused
    obtain ⟨what, ⟨place, first⟩, rfl⟩ := refused
    exact ⟨place, what, first, rfl⟩
  · intro refused
    obtain ⟨place, what, first, rfl⟩ := refused
    exact ⟨what, ⟨place, first⟩, rfl⟩

end Lists

end SchemaDefaults
