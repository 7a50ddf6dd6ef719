import Mathlib.Data.List.Forall2
import SchemaDefaults.Proofs.Positions
import SchemaDefaults.Proofs.Readable

/-! # The order and the paths of the messages of a file

A walk through a file finds a message at exactly those positions on the way to which no message
stands for the entries of a map, in the order of the positions, which is depth first, and
leaves every message that it enters.
-/

namespace SchemaDefaults.Schema

/-- The option that marks the entries of a map can be read and says so. -/
def Message.MarkedMapEntry (message : Message) : Prop :=
  Options.truth? message.options "map_entry" = some true

instance (message : Message) : Decidable message.MarkedMapEntry :=
  inferInstanceAs (Decidable (_ = _))

theorem Message.value_isMapEntry (message : Message) :
    message.isMapEntry.value = decide message.MarkedMapEntry := by
  rw [Bool.eq_iff_iff, decide_eq_true_iff]
  simp only [Message.isMapEntry, Logged.value_bind, Logged.value_pure,
    Options.value_lookup_bool, Message.MarkedMapEntry]
  cases Options.truth? message.options "map_entry" with
  | none => simp
  | some truth => simp

/-- There is a message at a position, and neither it nor one around it stands for the entries of
    a map. -/
def Open (forest : List Message) (position : List Nat) : Prop :=
  ∃ chain, Descent forest position chain ∧ ∀ message ∈ chain, ¬message.MarkedMapEntry

/-- The message at a position, with the names of the messages on the way down to it. -/
def StandsAt (forest : List Message) (position : List Nat) (placed : PlacedMessage) : Prop :=
  ∃ chain, Descent forest position chain ∧ placed.path = chain.map (·.name) ∧
    chain.getLast? = some placed.message

/-! ## What a walk finds -/

mutual

/-- A visit finds what is in the message and leaves every message that it enters. -/
theorem Message.value_visit (walk : Walk) (message : Message) :
    (message.visit walk).value =
      ⟨walk.names,
        ((message.located MarkedMapEntry walk.names.reverse).map Prod.snd).reverse
          ++ walk.found⟩ := by
  match message with
  | ⟨name, fields, nested, options⟩ =>
      simp only [Message.visit, Message.located, Logged.value_bind, Message.value_isMapEntry,
        decide_eq_true_eq]
      by_cases marked : Message.MarkedMapEntry ⟨name, fields, nested, options⟩
      · rw [if_pos marked, if_pos marked]
        rfl
      · rw [if_neg marked, if_neg marked, Logged.value_bind, Logged.value_pure,
          Message.value_visitAll _ 0 nested]
        simp [Walk.leave, Walk.enter]

theorem Message.value_visitAll (walk : Walk) (first : Nat) (messages : List Message) :
    (Message.visitAll walk messages).value =
      ⟨walk.names,
        ((Message.locatedAll MarkedMapEntry walk.names.reverse first messages).map Prod.snd).reverse
          ++ walk.found⟩ := by
  match messages with
  | [] => rfl
  | message :: rest =>
      simp only [Message.visitAll, Message.locatedAll, Logged.value_bind]
      rw [Message.value_visit walk message, Message.value_visitAll _ (first + 1) rest]
      simp [Function.comp_def]

end

theorem File.value_placedMessages (file : File) :
    file.placedMessages.value =
      (Message.locatedAll Message.MarkedMapEntry [] 0 file.messages).map Prod.snd := by
  simp only [File.placedMessages, Logged.value_bind, Logged.value_pure,
    Message.value_visitAll .start 0 file.messages]
  simp [Walk.start]

/-! ## The walk as a whole -/

/-- The positions at which a walk finds messages, in the order in which it finds them. -/
def File.positions (file : File) : List (List Nat) :=
  (Message.locatedAll Message.MarkedMapEntry [] 0 file.messages).map Prod.fst

theorem File.mem_positions_iff {file : File} {position : List Nat} :
    position ∈ file.positions ↔ Open file.messages position := by
  constructor
  · intro member
    obtain ⟨⟨_, placed⟩, found, rfl⟩ := List.mem_map.mp member
    obtain ⟨chain, descent, clear, _⟩ := mem_locatedAll_iff.mp found
    exact ⟨chain, descent, clear⟩
  · rintro ⟨chain, descent, clear⟩
    exact List.mem_map.mpr ⟨_, descent.mem_locatedAll clear, rfl⟩

theorem File.stand_placedMessages (file : File) :
    List.Forall₂ (StandsAt file.messages) file.positions file.placedMessages.value := by
  rw [File.value_placedMessages, File.positions, List.forall₂_map_left_iff,
    List.forall₂_map_right_iff, List.forall₂_same]
  rintro ⟨position, placed⟩ member
  obtain ⟨chain, descent, _, path, last⟩ := mem_locatedAll_iff.mp member
  exact ⟨chain, descent, path, last⟩

theorem File.nodup_positions (file : File) : file.positions.Nodup := by
  refine List.Pairwise.imp ?_ (Message.sorted_locatedAll [] 0 file.messages)
  rintro left _ earlier rfl
  exact List.lex_irrefl (fun _ => Nat.lt_irrefl _) left earlier

theorem StandsAt.last_name {forest position placed} (stands : StandsAt forest position placed) :
    placed.path.getLast? = some placed.message.name := by
  obtain ⟨chain, _, path, last⟩ := stands
  rw [path, List.getLast?_map, last]
  rfl

theorem File.exists_standsAt {file : File} {placed : PlacedMessage}
    (member : placed ∈ file.placedMessages.value) :
    ∃ position, StandsAt file.messages position placed := by
  rw [File.value_placedMessages] at member
  obtain ⟨⟨position, _⟩, found, rfl⟩ := List.mem_map.mp member
  obtain ⟨chain, descent, _, path, last⟩ := mem_locatedAll_iff.mp found
  exact ⟨position, chain, descent, path, last⟩

theorem value_placedIn (files : List File) :
    (placedIn files).value = files.map fun file => file.placedMessages.value := by
  induction files with
  | nil => rfl
  | cons file rest ih =>
      simp only [placedIn, Logged.value_bind, Logged.value_pure, ih, List.map_cons]

/-- The messages of a file are those at its open positions, each once and in depth-first order,
    under the names on the way down to them, the last of which is their own. A visit leaves the
    walk inside of the same messages as before, also when it passes over the entries of a map.
    The messages of a schema are counted by the open positions of its files. -/
theorem placedMessages_depth_first :
    ∃ positions : File → List (List Nat),
      (∀ file, (positions file).Pairwise (List.Lex (· < ·)) ∧ (positions file).Nodup ∧
        (∀ position, position ∈ positions file ↔ Open file.messages position) ∧
        List.Forall₂ (StandsAt file.messages) (positions file) file.placedMessages.value) ∧
      (∀ file : File, ∀ placed ∈ file.placedMessages.value,
        placed.path.getLast? = some placed.message.name) ∧
      (∀ (walk : Walk) (message : Message), ∃ found,
        (message.visit walk).value = ⟨walk.names, found ++ walk.found⟩ ∧
        (message.MarkedMapEntry → found = [])) ∧
      (∀ schema : Schema, schema.messageCount.value =
        total (schema.files.map fun file => (positions file).length)) := by
  refine ⟨File.positions, fun file => ?_, fun file placed member => ?_, fun walk message => ?_,
    fun schema => ?_⟩
  · exact ⟨Message.sorted_locatedAll [] 0 file.messages, file.nodup_positions,
      fun position => File.mem_positions_iff, file.stand_placedMessages⟩
  · obtain ⟨index, inside, rfl⟩ := List.mem_iff_getElem.mp member
    have stands := file.stand_placedMessages
    have bound : index < file.positions.length := stands.length_eq ▸ inside
    exact (List.forall₂_iff_get.mp stands |>.2 index bound inside).last_name
  · refine ⟨_, message.value_visit walk, fun marked => ?_⟩
    obtain ⟨name, fields, nested, options⟩ := message
    simp [Message.located, marked]
  · simp only [messageCount, Logged.value_bind, Logged.value_pure, value_placedIn, List.map_map]
    have counted : ∀ file ∈ schema.files,
        (List.length ∘ fun file => file.placedMessages.value) file = file.positions.length :=
      fun file _ => file.stand_placedMessages.length_eq.symm
    rw [List.map_congr_left counted]

end SchemaDefaults.Schema
