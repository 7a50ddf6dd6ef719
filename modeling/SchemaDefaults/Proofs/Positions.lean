import SchemaDefaults.Schema.Placement

/-! # Positions in a tree of messages

A position says how to get down to a message: which of the messages of the file to enter,
which of those nested in it, and so on. Positions in lexicographic order are a tree in
depth-first order, a message before those nested in it. Listed in this order, messages may be
skipped, together with all that is inside them: what is listed then is at the positions on the
way to which no message is skipped.
-/

namespace SchemaDefaults.Schema

/-- Going down along a position, from one of some messages, passes through a chain of messages.
    The last of them is the message at the position. -/
inductive Descent : List Message → List Nat → List Message → Prop where
  | stop {forest : List Message} {index : Nat} {message : Message} :
      forest[index]? = some message → Descent forest [index] [message]
  | inward {forest : List Message} {index : Nat} {message : Message} {position : List Nat}
      {chain : List Message} :
      forest[index]? = some message → Descent message.nested position chain →
      Descent forest (index :: position) (message :: chain)

theorem Descent.ne_nil {forest : List Message} {position : List Nat} {chain : List Message}
    (descent : Descent forest position chain) : chain ≠ [] := by
  cases descent <;> simp

/-- If something that holds of siblings holds of those nested in any of them too, what it says of
    each sibling is true of each message on the way down. -/
theorem Descent.forall_mem {P : List Message → Prop} {Q : Message → Prop}
    (here : ∀ forest, P forest → ∀ message ∈ forest, Q message)
    (below : ∀ forest, P forest → ∀ message ∈ forest, P message.nested)
    {forest : List Message} {position : List Nat} {chain : List Message}
    (descent : Descent forest position chain) (holds : P forest) :
    ∀ message ∈ chain, Q message := by
  induction descent with
  | stop found =>
      rw [List.forall_mem_singleton]
      exact here _ holds _ (List.mem_of_getElem? found)
  | inward found _ ih =>
      have member := List.mem_of_getElem? found
      exact List.forall_mem_cons.mpr ⟨here _ holds _ member, ih (below _ holds _ member)⟩

/-! ## The messages of a tree, with their positions -/

section

variable (skip : Message → Prop) [DecidablePred skip]

mutual

/-- The messages in a message, itself included, with their positions below it. -/
def Message.located (outer : List String) : Message → List (List Nat × PlacedMessage)
  | ⟨name, fields, nested, options⟩ =>
      let message : Message := ⟨name, fields, nested, options⟩
      if skip message then []
      else
        ([], ⟨outer ++ [name], message⟩) :: Message.locatedAll (outer ++ [name]) 0 nested

/-- The messages in messages that are numbered from a first number on. -/
def Message.locatedAll (outer : List String) (first : Nat) :
    List Message → List (List Nat × PlacedMessage)
  | [] => []
  | message :: rest =>
      (message.located outer).map (fun (position, placed) => (first :: position, placed)) ++
        Message.locatedAll outer (first + 1) rest

end

end

variable {skip : Message → Prop} [DecidablePred skip] {outer : List String}
  {forest : List Message} {position : List Nat} {placed : PlacedMessage}

theorem Message.mem_located {message : Message} :
    (position, placed) ∈ message.located skip outer ↔ ¬skip message ∧
      (position = [] ∧ placed = ⟨outer ++ [message.name], message⟩ ∨
        (position, placed) ∈
          Message.locatedAll skip (outer ++ [message.name]) 0 message.nested) := by
  obtain ⟨name, fields, nested, options⟩ := message
  simp only [Message.located]
  split
  · simp_all
  · simp_all

theorem Message.mem_locatedAll {first : Nat} :
    (position, placed) ∈ Message.locatedAll skip outer first forest ↔
      ∃ index inner message, position = (first + index) :: inner ∧
        forest[index]? = some message ∧ (inner, placed) ∈ message.located skip outer := by
  induction forest generalizing first with
  | nil => simp [Message.locatedAll]
  | cons head rest ih =>
      simp only [Message.locatedAll, List.mem_append, List.mem_map, ih]
      constructor
      · rintro (⟨⟨inner, found⟩, member, same⟩ | ⟨index, inner, message, rfl, found, member⟩)
        · obtain ⟨rfl, rfl⟩ := Prod.mk.inj same
          exact ⟨0, inner, head, rfl, rfl, member⟩
        · refine ⟨index + 1, inner, message, ?_, found, member⟩
          rw [Nat.add_right_comm, Nat.add_assoc]
      · rintro ⟨index, inner, message, rfl, found, member⟩
        cases index with
        | zero =>
            obtain rfl := Option.some.inj found
            exact .inl ⟨(inner, placed), member, rfl⟩
        | succ index =>
            refine .inr ⟨index, inner, message, ?_, found, member⟩
            rw [Nat.add_right_comm, Nat.add_assoc]

/-- What is listed at a position is the message there, under the names on the way down to it, and
    it is listed if no message on the way is skipped. -/
theorem mem_locatedAll_iff :
    (position, placed) ∈ Message.locatedAll skip outer 0 forest ↔
      ∃ chain, Descent forest position chain ∧ (∀ message ∈ chain, ¬skip message) ∧
        placed.path = outer ++ chain.map (·.name) ∧ chain.getLast? = some placed.message := by
  -- The induction is on the position: each of its numbers is one message entered.
  induction position generalizing outer forest with
  | nil =>
      rw [Message.mem_locatedAll]
      constructor
      · rintro ⟨_, _, _, same, _⟩
        cases same
      · rintro ⟨_, descent, _⟩
        cases descent
  | cons index inner ih =>
      rw [Message.mem_locatedAll]
      constructor
      · rintro ⟨_, _, message, same, found, member⟩
        obtain ⟨rfl, rfl⟩ := List.cons.inj same
        rw [Nat.zero_add] at *
        rw [Message.mem_located] at member
        obtain ⟨kept, ⟨rfl, rfl⟩ | deeper⟩ := member
        · exact ⟨[message], .stop found, by simpa using kept, by simp, rfl⟩
        · obtain ⟨chain, descent, clear, path, last⟩ := ih.mp deeper
          refine ⟨message :: chain, .inward found descent, ?_, by simpa using path, ?_⟩
          · exact List.forall_mem_cons.mpr ⟨kept, clear⟩
          · rw [List.getLast?_cons, last]
            rfl
      · rintro ⟨chain, descent, clear, path, last⟩
        cases descent with
        | stop found =>
            refine ⟨index, [], _, by rw [Nat.zero_add], found, ?_⟩
            rw [Message.mem_located]
            refine ⟨clear _ (by simp), .inl ⟨rfl, ?_⟩⟩
            obtain ⟨placedPath, message⟩ := placed
            simp_all
        | @inward _ _ message _ below found descent =>
            refine ⟨index, inner, message, by rw [Nat.zero_add], found, ?_⟩
            rw [Message.mem_located]
            refine ⟨clear _ (by simp), .inr (ih.mpr ⟨below, descent, ?_, ?_, ?_⟩)⟩
            · exact fun m member => clear m (List.mem_cons_of_mem _ member)
            · simpa using path
            · cases below with
              | nil => cases descent
              | cons => simpa using last

theorem Descent.mem_locatedAll {chain : List Message} (descent : Descent forest position chain)
    (clear : ∀ message ∈ chain, ¬skip message) :
    (position, ⟨chain.map (·.name), chain.getLast descent.ne_nil⟩) ∈
      Message.locatedAll skip [] 0 forest :=
  mem_locatedAll_iff.mpr
    ⟨chain, descent, clear, rfl, List.getLast?_eq_some_getLast descent.ne_nil⟩

/-! ## Their order -/

mutual

theorem Message.sorted_located (outer : List String) (message : Message) :
    ((message.located skip outer).map Prod.fst).Pairwise (List.Lex (· < ·)) := by
  match message with
  | ⟨name, fields, nested, options⟩ =>
      simp only [Message.located]
      split
      · exact .nil
      · refine .cons ?_ (Message.sorted_locatedAll (outer ++ [name]) 0 nested)
        intro position member
        obtain ⟨⟨_, placed⟩, found, rfl⟩ := List.mem_map.mp member
        obtain ⟨index, inner, _, rfl, _⟩ := Message.mem_locatedAll.mp found
        exact .nil

theorem Message.sorted_locatedAll (outer : List String) (first : Nat) (messages : List Message) :
    ((Message.locatedAll skip outer first messages).map Prod.fst).Pairwise
      (List.Lex (· < ·)) := by
  match messages with
  | [] => exact .nil
  | message :: rest =>
      simp only [Message.locatedAll, List.map_append, List.pairwise_append]
      refine ⟨?_, Message.sorted_locatedAll outer (first + 1) rest, ?_⟩
      · have inside := Message.sorted_located outer message
        rw [List.pairwise_map] at inside ⊢
        rw [List.pairwise_map]
        exact inside.imp fun earlier => .cons earlier
      · intro left inLeft right inRight
        obtain ⟨_, found, rfl⟩ := List.mem_map.mp inLeft
        obtain ⟨_, _, rfl⟩ := List.mem_map.mp found
        obtain ⟨⟨_, _⟩, later, rfl⟩ := List.mem_map.mp inRight
        obtain ⟨index, _, _, rfl, _⟩ := Message.mem_locatedAll.mp later
        exact .rel (by omega)

end

end SchemaDefaults.Schema
