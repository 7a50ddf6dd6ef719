import Mathlib.Data.List.Chain
import SchemaDefaults.GoName

/-! # Camel case

What becomes of a character of a name depends on the characters beside it alone, so a name can
be cased without keeping track of where its words begin. In the result no small letter stands
where one would be raised, and no underscore where one would be dropped: the names that camel
case gives are the names that it leaves alone.
-/

namespace SchemaDefaults.GoName

/-! ## Letters -/

/-- Twenty-six characters, from a code point on. -/
def lettersFrom (first : Nat) : List Char :=
  (List.range' first 26).map Char.ofNat

theorem mem_lettersFrom {c : Char} {first : Nat} (low : first ≤ c.toNat)
    (high : c.toNat < first + 26) : c ∈ lettersFrom first :=
  List.mem_map.mpr ⟨c.toNat, List.mem_range'_1.mpr ⟨low, high⟩, Char.ofNat_toNat c⟩

theorem mem_of_isUpper {c : Char} (capital : c.isUpper = true) : c ∈ lettersFrom 65 := by
  have bounds : 65 ≤ c.toNat ∧ c.toNat ≤ 90 := of_decide_eq_true capital
  exact mem_lettersFrom bounds.1 (by omega)

theorem mem_of_isLower {c : Char} (small : c.isLower = true) : c ∈ lettersFrom 97 := by
  have bounds : 97 ≤ c.toNat ∧ c.toNat ≤ 122 :=
    (Bool.and_eq_true_iff.mp small).imp of_decide_eq_true of_decide_eq_true
  exact mem_lettersFrom bounds.1 (by omega)

theorem isUpper_toUpper {c : Char} (small : c.isLower = true) : c.toUpper.isUpper = true := by
  have every : (lettersFrom 97).all (fun c => c.toUpper.isUpper) = true := by decide +kernel
  exact List.all_eq_true.mp every c (mem_of_isLower small)

/-- A small letter right behind such a character becomes a capital. -/
def raises (c : Char) : Bool :=
  c = '_' || c.isDigit

theorem raises_iff (c : Char) : raises c = true ↔ c = '_' ∨ c.isDigit = true := by
  simp [raises]

theorem raises_of_isLower {c : Char} (small : c.isLower = true) : raises c = false := by
  have every : (lettersFrom 97).all (fun c => !raises c) = true := by decide +kernel
  simpa using List.all_eq_true.mp every c (mem_of_isLower small)

theorem of_isUpper {c : Char} (capital : c.isUpper = true) :
    raises c = false ∧ c.isLower = false := by
  have every : (lettersFrom 65).all (fun c => !raises c && !c.isLower) = true := by decide +kernel
  simpa using List.all_eq_true.mp every c (mem_of_isUpper capital)

/-! ## The first character -/

theorem startsLower_eq_false_iff {chars : List Char} :
    startsLower chars = false ↔ ∀ c ∈ chars.head?, c.isLower = false := by
  cases chars <;> simp [startsLower]

theorem startsLower_eq_any (chars : List Char) :
    startsLower chars = chars.head?.any Char.isLower := by
  cases chars <;> rfl

section

variable {fresh : Bool} {c : Char} {rest : List Char}

theorem camelChars_small (small : c.isLower = true) :
    camelChars fresh (c :: rest) = (if fresh then c.toUpper else c) :: camelChars false rest := by
  rw [camelChars, if_pos small]

theorem camelChars_dropped (lower : startsLower rest = true) :
    camelChars fresh ('_' :: rest) = camelChars true rest := by
  have dropped : (decide ('_' = '_') && startsLower rest) = true := by simpa using lower
  rw [camelChars, if_neg (by decide), if_pos dropped]

theorem not_dropped (kept : c = '_' → startsLower rest = false) :
    ¬(c = '_' ∧ startsLower rest = true) := by
  rintro ⟨underscore, lower⟩
  rw [kept underscore] at lower
  cases lower

theorem camelChars_kept (large : c.isLower = false) (kept : c = '_' → startsLower rest = false) :
    camelChars fresh (c :: rest) = c :: camelChars c.isDigit rest := by
  have stays : ¬(decide (c = '_') && startsLower rest) = true := by
    rw [Bool.and_eq_true, decide_eq_true_eq]
    exact not_dropped kept
  rw [camelChars, if_neg (by simp [large]), if_neg stays]

/-- A character is raised or kept as a small letter, or an underscore that is dropped, or kept. -/
theorem char_cases (c : Char) (rest : List Char) :
    c.isLower = true ∨ (c = '_' ∧ startsLower rest = true) ∨
      (c.isLower = false ∧ (c = '_' → startsLower rest = false)) := by
  cases c.isLower <;> cases startsLower rest <;> simp [eq_or_ne]

end

/-- Whether the first character comes fresh matters only to a small letter. -/
theorem camelChars_of_large (fresh : Bool) {chars : List Char} (large : startsLower chars = false) :
    camelChars fresh chars = camelChars true chars := by
  cases chars with
  | nil => rfl
  | cons c rest =>
      have notSmall : ¬c.isLower = true := by
        rw [startsLower] at large
        simp [large]
      simp only [camelChars, if_neg notSmall]

theorem toList_camel_of_no_underscore {name : String} (start : name.toList.head? ≠ some '_') :
    (camel name).toList = camelChars true name.toList := by
  rw [camel, String.toList_ofList]
  split
  case h_1 rest spelled =>
      rw [spelled] at start
      exact absurd rfl start
  case h_2 => rfl

/-- Only a leading underscore is not cased like the other characters. -/
theorem camel_cases (name : String) :
    (∃ rest, name.toList = '_' :: rest ∧ (camel name).toList = 'X' :: camelChars true rest) ∨
      (name.toList.head? ≠ some '_' ∧ (camel name).toList = camelChars true name.toList) := by
  by_cases start : name.toList.head? = some '_'
  · obtain ⟨rest, spelled⟩ : ∃ rest, name.toList = '_' :: rest :=
      ⟨_, List.eq_cons_of_mem_head? start⟩
    refine .inl ⟨rest, spelled, ?_⟩
    simp only [camel, String.toList_ofList, spelled]
  · exact .inr ⟨start, toList_camel_of_no_underscore start⟩

/-! ## What a cased name is made of -/

theorem mem_camelChars {fresh : Bool} {chars : List Char} {c : Char}
    (member : c ∈ camelChars fresh chars) : c ∈ chars ∨ c.isUpper = true := by
  induction chars generalizing fresh with
  | nil => exact .inl member
  | cons first rest ih =>
      have behind : ∀ {fresh}, c ∈ camelChars fresh rest → c ∈ first :: rest ∨ c.isUpper = true :=
        fun member => (ih member).imp_left (List.mem_cons_of_mem first)
      obtain small | ⟨rfl, lower⟩ | ⟨large, kept⟩ := char_cases first rest
      · rw [camelChars_small small] at member
        rcases List.mem_cons.mp member with rfl | later
        · split
          · exact .inr (isUpper_toUpper small)
          · exact .inl List.mem_cons_self
        · exact behind later
      · rw [camelChars_dropped lower] at member
        exact behind member
      · rw [camelChars_kept large kept] at member
        rcases List.mem_cons.mp member with rfl | later
        · exact .inl List.mem_cons_self
        · exact behind later

/-- Camel case brings in nothing but capitals. -/
theorem mem_camel {name : String} {c : Char} (member : c ∈ (camel name).toList) :
    c ∈ name.toList ∨ c.isUpper = true := by
  obtain ⟨rest, spelled, cased⟩ | ⟨_, cased⟩ := camel_cases name
  · rw [cased] at member
    rcases List.mem_cons.mp member with rfl | later
    · exact .inr rfl
    · rw [spelled]
      exact (mem_camelChars later).imp_left (List.mem_cons_of_mem '_')
  · rw [cased] at member
    exact mem_camelChars member

/-! ## Every character for itself -/

/-- What becomes of a character between its neighbours. -/
def piece (before : Option Char) (c : Char) (after : Option Char) : List Char :=
  if c = '_' ∧ before = none then ['X']
  else if c = '_' ∧ after.any Char.isLower then []
  else if c.isLower ∧ before.all raises then [c.toUpper]
  else [c]

/-- The pieces of the characters behind one that is given. -/
def pieces (before : Option Char) : List Char → List Char
  | [] => []
  | c :: rest => piece before c rest.head? ++ pieces (some c) rest

theorem pieces_eq_flatMap (past chars : List Char) :
    pieces past.getLast? chars = (chars.zipIdx past.length).flatMap fun (c, i) =>
      piece ((past ++ chars).take i).getLast? c ((past ++ chars).drop (i + 1)).head? := by
  induction chars generalizing past with
  | nil => rfl
  | cons c rest ih =>
      have others := ih (past ++ [c])
      rw [List.getLast?_concat, List.length_append, List.append_assoc] at others
      rw [pieces, others, List.zipIdx_cons, List.flatMap_cons]
      simp

/-- What the casing remembers is whether the character before raises a small letter, and it needs to
    know this of small letters only. -/
theorem camelChars_eq_pieces {fresh : Bool} {before : Option Char} {chars : List Char}
    (known : startsLower chars = true → fresh = before.all raises)
    (start : before = none → chars.head? ≠ some '_') :
    camelChars fresh chars = pieces before chars := by
  induction chars generalizing fresh before with
  | nil => rfl
  | cons c rest ih =>
      rw [pieces, piece, ← startsLower_eq_any]
      obtain small | ⟨rfl, lower⟩ | ⟨large, kept⟩ := char_cases c rest
      · have letter : c ≠ '_' := by
          rintro rfl
          cases small
        have aged : camelChars false rest = pieces (some c) rest :=
          ih (fun _ => (raises_of_isLower small).symm) nofun
        rw [camelChars_small small, aged, known small]
        by_cases raised : before.all raises = true
        · simp [letter, small, raised]
        · simp [letter, small, raised]
      · have inside : before ≠ none := fun none => start none rfl
        have raised : camelChars true rest = pieces (some '_') rest := ih (fun _ => rfl) nofun
        rw [camelChars_dropped lower, raised]
        simp [inside, lower]
      · have next : camelChars c.isDigit rest = pieces (some c) rest := by
          refine ih (fun lower => ?_) nofun
          have other : c ≠ '_' := fun underscore => not_dropped kept ⟨underscore, lower⟩
          simp [raises, other]
        have stays : ¬(c = '_' ∧ before = none) := by
          rintro ⟨rfl, none⟩
          exact start none rfl
        rw [camelChars_kept large kept, next, if_neg stays, if_neg (not_dropped kept),
          if_neg (by simp [large])]
        rfl

/-- Camel case puts a piece in the place of each character, and the piece depends on nothing but
    the character and the ones beside it. -/
theorem camel_by_neighbours (name : String) :
    let chars := name.toList
    camel name = String.ofList (chars.zipIdx.flatMap fun (c, i) =>
      piece (chars.take i).getLast? c (chars.drop (i + 1)).head?) := by
  intro chars
  have summed : pieces none chars = chars.zipIdx.flatMap fun (c, i) =>
      piece (chars.take i).getLast? c (chars.drop (i + 1)).head? := pieces_eq_flatMap [] chars
  rw [← summed, ← String.toList_inj, String.toList_ofList]
  obtain ⟨rest, spelled, cased⟩ | ⟨start, cased⟩ := camel_cases name
  · have behind : camelChars true rest = pieces (some '_') rest :=
      camelChars_eq_pieces (fun _ => rfl) nofun
    have given : chars = '_' :: rest := spelled
    rw [cased, behind, given, pieces, piece]
    rfl
  · rw [cased]
    exact camelChars_eq_pieces (fun _ => rfl) fun _ => start

/-! ## What camel case leaves alone -/

/-- No small letter stands right behind an underscore or a digit. -/
def Settled (chars : List Char) : Prop :=
  chars.IsChain fun c next => c = '_' ∨ c.isDigit = true → next.isLower = false

/-- A name in which there is nothing to raise and nothing to drop. -/
structure Cased (name : String) : Prop where
  start : ∀ c ∈ name.toList.head?, c ≠ '_' ∧ c.isLower = false
  settled : Settled name.toList

theorem settled_cons_iff {c : Char} {rest : List Char} :
    Settled (c :: rest) ↔ (raises c = true → startsLower rest = false) ∧ Settled rest := by
  rw [Settled, List.isChain_cons, raises_iff, startsLower_eq_false_iff]
  exact and_congr_left' ⟨fun loose mark d first => loose d first mark,
    fun loose d first mark => loose mark d first⟩

theorem camelChars_of_settled {fresh : Bool} {chars : List Char} (settled : Settled chars)
    (start : fresh = true → startsLower chars = false) : camelChars fresh chars = chars := by
  induction chars generalizing fresh with
  | nil => rfl
  | cons c rest ih =>
      obtain ⟨loose, others⟩ := settled_cons_iff.mp settled
      obtain small | ⟨rfl, lower⟩ | ⟨large, kept⟩ := char_cases c rest
      · have stale : ¬fresh = true := fun fresh => by
          have large : c.isLower = false := start fresh
          rw [small] at large
          cases large
        have aged : camelChars false rest = rest := ih others nofun
        rw [camelChars_small small, if_neg stale, aged]
      · rw [loose rfl] at lower
        cases lower
      · have next : c.isDigit = true → startsLower rest = false :=
          fun digit => loose ((raises_iff c).mpr (.inr digit))
        rw [camelChars_kept large kept, ih others next]

theorem Cased.camel_eq {name : String} (cased : Cased name) : camel name = name := by
  have start : name.toList.head? ≠ some '_' := fun first => (cased.start _ first).1 rfl
  have large : startsLower name.toList = false :=
    startsLower_eq_false_iff.mpr fun c first => (cased.start c first).2
  rw [← String.toList_inj, toList_camel_of_no_underscore start]
  exact camelChars_of_settled cased.settled fun _ => large

theorem startsLower_camelChars (fresh : Bool) (chars : List Char) :
    startsLower (camelChars fresh chars) = (!fresh && startsLower chars) := by
  induction chars generalizing fresh with
  | nil => simp [camelChars, startsLower]
  | cons c rest ih =>
      obtain small | ⟨rfl, lower⟩ | ⟨large, kept⟩ := char_cases c rest
      · rw [camelChars_small small]
        cases fresh
        · simp [startsLower, small]
        · exact (of_isUpper (isUpper_toUpper small)).2
      · rw [camelChars_dropped lower, ih]
        simp [startsLower]
      · rw [camelChars_kept large kept]
        simp [startsLower, large]

theorem settled_camelChars (fresh : Bool) (chars : List Char) :
    Settled (camelChars fresh chars) := by
  induction chars generalizing fresh with
  | nil => exact .nil
  | cons c rest ih =>
      obtain small | ⟨rfl, lower⟩ | ⟨large, kept⟩ := char_cases c rest
      · have letter : raises (if fresh then c.toUpper else c) = false := by
          cases fresh
          · exact raises_of_isLower small
          · exact (of_isUpper (isUpper_toUpper small)).1
        rw [camelChars_small small, settled_cons_iff, letter]
        exact ⟨nofun, ih false⟩
      · rw [camelChars_dropped lower]
        exact ih true
      · rw [camelChars_kept large kept, settled_cons_iff, startsLower_camelChars, raises_iff]
        refine ⟨?_, ih _⟩
        rintro (underscore | digit)
        · simp [kept underscore]
        · simp [digit]

/-- What the casing begins with, if the name does not begin with an underscore. -/
theorem head_camelChars {c first : Char} {rest : List Char} (start : c ≠ '_')
    (begins : first ∈ (camelChars true (c :: rest)).head?) :
    first ≠ '_' ∧ first.isLower = false := by
  obtain small | ⟨underscore, _⟩ | ⟨large, kept⟩ := char_cases c rest
  · rw [camelChars_small small] at begins
    obtain rfl : c.toUpper = first := Option.some.inj begins
    obtain ⟨noMark, large⟩ := of_isUpper (isUpper_toUpper small)
    refine ⟨?_, large⟩
    rintro underscore
    rw [underscore] at noMark
    cases noMark
  · exact absurd underscore start
  · rw [camelChars_kept large kept] at begins
    obtain rfl : c = first := Option.some.inj begins
    exact ⟨start, large⟩

theorem cased_camel (name : String) : Cased (camel name) := by
  obtain ⟨rest, _, cased⟩ | ⟨start, cased⟩ := camel_cases name
  · constructor
    · rw [cased]
      rintro _ ⟨⟩
      decide
    · rw [cased, settled_cons_iff]
      exact ⟨nofun, settled_camelChars true rest⟩
  · constructor
    · rw [cased]
      cases spelled : name.toList with
      | nil => nofun
      | cons c rest =>
          rw [spelled] at start
          exact fun first => head_camelChars fun underscore => start (congrArg some underscore)
    · rw [cased]
      exact settled_camelChars true _

theorem camelChars_eq_nil_iff (fresh : Bool) (chars : List Char) :
    camelChars fresh chars = [] ↔ chars = [] := by
  induction chars generalizing fresh with
  | nil => simp [camelChars]
  | cons c rest ih =>
      obtain small | ⟨rfl, lower⟩ | ⟨large, kept⟩ := char_cases c rest
      · simp [camelChars_small small]
      · -- The small letter behind a dropped underscore stays.
        have behind : rest ≠ [] := by
          rintro rfl
          cases lower
        simp [camelChars_dropped lower, ih, behind]
      · simp [camelChars_kept large kept]

theorem camel_eq_empty_iff (name : String) : camel name = "" ↔ name = "" := by
  rw [← String.toList_eq_nil_iff, ← String.toList_eq_nil_iff]
  obtain ⟨rest, spelled, cased⟩ | ⟨_, cased⟩ := camel_cases name
  · simp [cased, spelled]
  · rw [cased, camelChars_eq_nil_iff]

/-- The names that camel case gives are those that it leaves alone: the ones that begin with no
    underscore and no small letter, and have no small letter behind an underscore or a digit. -/
theorem camel_gives_what_it_keeps (name : String) :
    Cased (camel name) ∧
      (camel name = "" ↔ name = "") ∧
      (camel name = name ↔ Cased name) ∧
      (camel name = name ↔ ∃ other, camel other = name) ∧
      camel (camel name) = camel name := by
  have keeps : camel name = name ↔ Cased name :=
    ⟨fun same => same ▸ cased_camel name, Cased.camel_eq⟩
  have given : camel name = name ↔ ∃ other, camel other = name := by
    refine ⟨fun same => ⟨name, same⟩, ?_⟩
    rintro ⟨other, rfl⟩
    exact (cased_camel other).camel_eq
  exact ⟨cased_camel name, camel_eq_empty_iff name, keeps, given, (cased_camel name).camel_eq⟩

end SchemaDefaults.GoName
