import SchemaDefaults.Proofs.Components
import SchemaDefaults.Proofs.DiskCalls

/-! # What calls leave on the disk

Calls make directories where nothing was, and put files where no directory was. So a path
that leads through directories leads to the same place ever after, and a file stays as it was
written until another write goes to its very place.
-/

namespace SchemaDefaults.Disk

/-- Putting an entry changes what is under its place, and nothing else. -/
theorem at?_put (disk : Disk) {place : List String} (below : place ≠ []) (entry : DiskEntry)
    (other : List String) :
    (disk.put place entry).at? other = if other = place then some entry else disk.at? other := by
  by_cases same : other = place
  · subst same
    simp [at?, put, below]
  · have kept : (disk.entries.filter (·.1 ≠ place)).lookup other = disk.entries.lookup other := by
      induction disk.entries with
      | nil => rfl
      | cons first rest ih =>
          obtain ⟨key, value⟩ := first
          by_cases found : other = key
          · subst found
            simp [same]
          · have unequal : (other == key) = false := by simpa using found
            by_cases gone : key = place
            · subst gone
              simpa [List.lookup_cons, unequal] using ih
            · simpa [gone, List.lookup_cons, unequal] using ih
    have unequal : (other == place) = false := by simpa using same
    simp only [at?, put, List.lookup_cons, unequal, kept, same, if_false]

/-! ## Following segments -/

/-- Segments lead from one directory to another. -/
inductive Reaches (disk : Disk) : List String → List String → List String → Prop where
  | here (start : List String) : Reaches disk start [] start
  | skip {start place segments : List String} {segment : String}
      (nothing : segment = "" ∨ segment = ".") (rest : Reaches disk start segments place) :
      Reaches disk start (segment :: segments) place
  | up {start place segments : List String} (rest : Reaches disk start.dropLast segments place) :
      Reaches disk start (".." :: segments) place
  | into {start place segments : List String} {segment : String} (named : segment ≠ "")
      (notDot : segment ≠ ".") (notUp : segment ≠ "..")
      (there : disk.child? start segment = .ok (some .directory))
      (rest : Reaches disk (start ++ [segment]) segments place) :
      Reaches disk start (segment :: segments) place

namespace Reaches

variable {disk : Disk} {start base place front segments : List String}

/-- After segments that lead to a directory the others are followed from there. -/
theorem follow_append (reaches : Reaches disk start front base) (rest : List String) :
    disk.follow start (front ++ rest) = disk.follow base rest := by
  induction reaches with
  | here => rfl
  | skip nothing _ ih => simpa only [List.cons_append, follow, nothing, if_true] using ih
  | up _ ih => simpa [follow] using ih
  | into named notDot notUp there _ ih =>
      simpa only [List.cons_append, follow, named, notDot, notUp, or_self, if_false, bind,
        Except.bind, there] using ih

theorem of_follow (found : disk.follow start segments = .ok (place, .directory)) :
    Reaches disk start segments place := by
  induction segments generalizing start with
  | nil =>
      simp only [follow, Except.ok.injEq, Prod.mk.injEq, and_true] at found
      exact found ▸ .here start
  | cons segment rest ih =>
      by_cases nothing : segment = "" ∨ segment = "."
      · simp only [follow, nothing, if_true] at found
        exact .skip nothing (ih found)
      · obtain ⟨named, notDot⟩ := not_or.mp nothing
        by_cases notUp : segment = ".."
        · subst notUp
          simp only [follow, nothing, if_false, if_true] at found
          exact .up (ih found)
        · simp only [follow, nothing, notUp, if_false, bind, Except.bind] at found
          cases child : disk.child? start segment with
          | error cause => simp [child] at found
          | ok entry =>
              match entry with
              | none => simp [child] at found
              | some .directory =>
                  exact .into named notDot notUp child (ih (by simpa [child] using found))
              | some (.file content) =>
                  by_cases ended : rest.isEmpty
                  · simp [child, ended] at found
                  · simp [child, ended] at found

theorem follow_eq (reaches : Reaches disk start segments place) :
    disk.follow start segments = .ok (place, .directory) := by
  have followed := reaches.follow_append []
  rw [List.append_nil] at followed
  exact followed

theorem unique (first : Reaches disk start segments base)
    (second : Reaches disk start segments place) : base = place := by
  have same := first.follow_eq.symm.trans second.follow_eq
  simpa using same

/-- Segments that lead to a directory do so by way of one that those in front lead to. -/
theorem split (reaches : Reaches disk start (front ++ segments) place) :
    ∃ base, Reaches disk start front base ∧ Reaches disk base segments place := by
  induction front generalizing start with
  | nil => exact ⟨start, .here start, reaches⟩
  | cons segment front ih =>
      rw [List.cons_append] at reaches
      cases reaches with
      | skip nothing rest =>
          obtain ⟨base, onward, below⟩ := ih rest
          exact ⟨base, .skip nothing onward, below⟩
      | up rest =>
          obtain ⟨base, onward, below⟩ := ih rest
          exact ⟨base, .up onward, below⟩
      | into named notDot notUp there rest =>
          obtain ⟨base, onward, below⟩ := ih rest
          exact ⟨base, .into named notDot notUp there onward, below⟩

/-- Segments that do not go up lead down by their names. -/
theorem down (reaches : Reaches disk start segments place) (noUps : ".." ∉ segments) :
    place = start ++ segments.filter fun segment => segment ≠ "" ∧ segment ≠ "." := by
  induction reaches with
  | here => simp
  | skip nothing _ ih =>
      rw [ih (mt (List.mem_cons_of_mem _) noUps)]
      rcases nothing with rfl | rfl
      · simp
      · simp
  | up _ _ => exact absurd List.mem_cons_self noUps
  | into named notDot _ _ _ ih =>
      rw [ih (mt (List.mem_cons_of_mem _) noUps)]
      simp [named, notDot]

end Reaches

/-! ## Growing disks -/

/-- The directories of a disk are still there. -/
structure Within (before after : Disk) : Prop where
  current : after.current = before.current
  directories : ∀ place, before.at? place = some .directory → after.at? place = some .directory

namespace Within

variable {before middle after : Disk}

theorem refl (disk : Disk) : Within disk disk :=
  ⟨rfl, fun _ there => there⟩

theorem trans (first : Within before middle) (second : Within middle after) :
    Within before after :=
  ⟨second.current.trans first.current, fun place there =>
    second.directories place (first.directories place there)⟩

theorem child (within : Within before after) {directory : List String} {name : String}
    (found : before.child? directory name = .ok (some .directory)) :
    after.child? directory name = .ok (some .directory) := by
  simp only [child?] at found ⊢
  split
  · next long => simp [long] at found
  · next short =>
      rw [if_neg short, Except.ok.injEq] at found
      rw [within.directories _ found]

/-- Segments that lead to a directory lead to it still. -/
theorem reaches (within : Within before after) {start place segments : List String}
    (reaches : Reaches before start segments place) : Reaches after start segments place := by
  induction reaches with
  | here start => exact .here start
  | skip nothing _ ih => exact .skip nothing ih
  | up _ ih => exact .up ih
  | into named notDot notUp there _ ih => exact .into named notDot notUp (within.child there) ih

theorem origin (within : Within before after) (path : Path) :
    after.origin path = before.origin path := by
  simp only [Disk.origin, within.current]

theorem put {disk : Disk} {place : List String} (below : place ≠ [])
    (free : disk.at? place ≠ some .directory) (entry : DiskEntry) :
    Within disk (disk.put place entry) := by
  refine ⟨rfl, fun other there => ?_⟩
  have apart : other ≠ place := by
    rintro rfl
    exact free there
  rw [at?_put disk below, if_neg apart, there]

end Within

/-! ## Where a path leads -/

/-- A path leads to a name in a directory, whether or not there is an entry under that name. -/
structure Leads (disk : Disk) (path : Path) (directory : List String) (name : String) : Prop where
  allowed : admissible path = .ok ()
  named : name ≠ "" ∧ name ≠ "." ∧ name ≠ ".."
  short : name.utf8ByteSize ≤ maxName
  found : ∃ above, path.segments = above ++ [name] ∧
    Reaches disk (disk.origin path) above directory

theorem Leads.within {before after : Disk} {path : Path} {directory : List String} {name : String}
    (leads : Leads before path directory name) (within : Within before after) :
    Leads after path directory name := by
  obtain ⟨above, spelled, found⟩ := leads.found
  exact { leads with found := ⟨above, spelled, within.origin path ▸ within.reaches found⟩ }

/-- What is read through a path is the content of the file to which it leads. -/
theorem Leads.read {disk : Disk} {path : Path} {directory : List String} {name : String}
    (leads : Leads disk path directory name) {content : ByteArray}
    (there : disk.at? (directory ++ [name]) = some (.file content)) :
    disk.read path = .ok content := by
  obtain ⟨above, spelled, found⟩ := leads.found
  obtain ⟨named, notDot, notUp⟩ := leads.named
  have child : disk.child? directory name = .ok (some (.file content)) := by
    rw [child?, if_neg (Nat.not_lt.mpr leads.short), there]
  have last : disk.follow (disk.origin path) path.segments =
      .ok (directory ++ [name], .file content) := by
    rw [spelled, found.follow_append]
    simp only [follow, named, notDot, notUp, or_self, if_false, bind, Except.bind, child,
      List.isEmpty_nil, if_true]
  simp only [Disk.read, find, bind, Except.bind, leads.allowed, last]

theorem segments_of_dropSlashes {segments kept : List String} {name : String}
    (cut : dropSlashes segments = (kept, false)) (last : kept.getLast? = some name) :
    segments = kept.dropLast ++ [name] ∧ name ≠ "" := by
  simp only [dropSlashes, Prod.mk.injEq, bne_eq_false_iff_eq] at cut
  obtain ⟨rfl, whole⟩ := cut
  have same : segments.reverse.dropWhile (· == "") = segments.reverse :=
    (List.dropWhile_suffix _).eq_of_length (by simpa using whole)
  rw [same, List.reverse_reverse] at last ⊢
  obtain ⟨above, rfl⟩ := List.getLast?_eq_some_iff.mp last
  refine ⟨by simp, ?_⟩
  rintro rfl
  rw [List.reverse_append, List.reverse_singleton, List.singleton_append] at same
  have shorter := congrArg List.length same
  have bound := (List.dropWhile_sublist (l := above.reverse) (· == "")).length_le
  simp only [List.dropWhile_cons, beq_self_eq_true, if_true, List.length_cons] at shorter
  omega

theorem holder_ok {disk : Disk} {path : Path} {directory : List String} {name? : Option String}
    {slashes : Bool} (held : disk.holder path = .ok (directory, name?, slashes)) :
    admissible path = .ok () ∧ ∃ kept, dropSlashes path.segments = (kept, slashes) ∧
      disk.follow (disk.origin path) kept.dropLast = .ok (directory, .directory) ∧
      kept.getLast? = name? := by
  cases allowed : admissible path with
  | error cause => simp [holder, allowed, bind, Except.bind] at held
  | ok _ =>
      simp only [holder, allowed, bind, Except.bind] at held
      cases found : disk.follow (disk.origin path) (dropSlashes path.segments).1.dropLast with
      | error cause => simp [found] at held
      | ok place =>
          match place with
          | (place, .file content) => simp [found] at held
          | (place, .directory) =>
              simp only [found, Except.ok.injEq, Prod.mk.injEq] at held
              obtain ⟨rfl, rfl, rfl⟩ := held
              exact ⟨rfl, _, rfl, found, rfl⟩

theorem child_ok {disk : Disk} {directory : List String} {name : String}
    {found : Option DiskEntry} (child : disk.child? directory name = .ok found) :
    name.utf8ByteSize ≤ maxName ∧ disk.at? (directory ++ [name]) = found := by
  by_cases long : maxName < name.utf8ByteSize
  · simp [child?, long] at child
  · rw [child?, if_neg long, Except.ok.injEq] at child
    exact ⟨Nat.not_lt.mp long, child⟩

theorem write_ok {disk after : Disk} {path : Path} {content : ByteArray}
    (wrote : disk.write path content = .ok after) :
    ∃ directory name, Leads disk path directory name ∧
      disk.at? (directory ++ [name]) ≠ some .directory ∧
      after = disk.put (directory ++ [name]) (.file content) := by
  cases held : disk.holder path with
  | error cause => simp [write, held, bind, Except.bind] at wrote
  | ok holder =>
      simp only [write, held, bind, Except.bind] at wrote
      split at wrote
      · cases wrote
      · cases wrote
      · cases wrote
      · cases wrote
      · next directory name notDot notUp =>
          obtain ⟨allowed, kept, cut, found, last⟩ := holder_ok held
          obtain ⟨spelled, named⟩ := segments_of_dropSlashes cut last
          cases child : disk.child? directory name with
          | error cause => simp [child] at wrote
          | ok entry =>
              obtain ⟨short, there⟩ := child_ok child
              have leads : Leads disk path directory name :=
                ⟨allowed, ⟨named, notDot, notUp⟩, short, _, spelled, .of_follow found⟩
              refine ⟨directory, name, leads, ?_⟩
              rw [there]
              match entry with
              | some .directory => simp [child] at wrote
              | some (.file _) => exact ⟨by simp, by simpa [child, eq_comm] using wrote⟩
              | none => exact ⟨by simp, by simpa [child, eq_comm] using wrote⟩

theorem makeDirectory_ok {disk after : Disk} {path : Path}
    (made : disk.makeDirectory path = .ok after) :
    ∃ place, place ≠ [] ∧ disk.at? place = none ∧ after = disk.put place .directory := by
  cases held : disk.holder path with
  | error cause => simp [makeDirectory, held, bind, Except.bind] at made
  | ok holder =>
      simp only [makeDirectory, held, bind, Except.bind] at made
      split at made
      · cases made
      · cases made
      · cases made
      · next directory name _ _ _ =>
          cases child : disk.child? directory name with
          | error cause => simp [child] at made
          | ok entry =>
              match entry with
              | some _ => simp [child] at made
              | none =>
                  exact ⟨directory ++ [name], by simp, (child_ok child).2,
                    by simpa [child, eq_comm] using made⟩

/-! ## Files that stay -/

theorem within_attempt {disk next : Disk} {call : DiskCall} (made : call.attempt disk = .ok next) :
    Within disk next := by
  cases call with
  | makeDirectory path result =>
      obtain ⟨place, below, free, rfl⟩ := makeDirectory_ok made
      exact .put below (by simp [free]) _
  | write path text result =>
      obtain ⟨directory, name, -, free, rfl⟩ := write_ok made
      exact .put (by simp) free _

theorem Performs.within {disk after : Disk} {calls : List DiskCall}
    (performs : disk.Performs calls after) : Within disk after := by
  induction performs with
  | nil disk => exact .refl disk
  | failed _ _ _ ih => exact ih
  | done made _ _ ih => exact (within_attempt made).trans ih

/-- Inside a directory a plain path leads to where the directory leads to, and down by its names
    from there. -/
theorem Leads.join {disk : Disk} {directory inner : Path} {holder : List String} {name : String}
    (leads : Leads disk (directory.join inner) holder name) (plain : inner.isPlain = true) :
    ∃ base, Reaches disk (disk.origin directory) directory.front base ∧
      holder ++ [name] = base ++ inner.names := by
  obtain ⟨relative, -, down⟩ := Path.isPlain_parts plain
  obtain ⟨above, spelled, found⟩ := leads.found
  obtain ⟨named, notDot, -⟩ := leads.named
  have start : disk.origin (directory.join inner) = disk.origin directory := by
    simp only [origin, Path.isAbsolute_join relative]
  obtain ⟨onward, last, whole⟩ : ∃ onward last, inner.segments = onward ++ [last] :=
    ⟨_, _, (List.dropLast_concat_getLast inner.segments_ne_nil).symm⟩
  rw [Path.segments_join relative, whole, ← List.append_assoc] at spelled
  obtain ⟨rfl, ended⟩ := List.append_inj' spelled.symm rfl
  obtain rfl := List.singleton_inj.mp ended
  rw [start] at found
  obtain ⟨base, reached, below⟩ := found.split
  refine ⟨base, reached, ?_⟩
  have noUps : ".." ∉ onward := fun up => down (whole ▸ List.mem_append_left _ up)
  rw [below.down noUps, Path.names, whole]
  simp [named, notDot]

/-- What is to be written inside a directory: plain paths and texts. -/
def writesIn (directory : Path) (files : List (Path × String)) :
    List (Path × String × Except StorageError Unit) :=
  files.map fun file => (directory.join file.1, file.2, .ok ())

theorem writesIn_cons {path : Path} {text : String} {result : Except StorageError Unit}
    {calls : List DiskCall} {directory : Path} {files : List (Path × String)}
    (written : DiskCall.writes (.write path text result :: calls) = writesIn directory files) :
    ∃ inner others, files = (inner, text) :: others ∧ path = directory.join inner ∧
      result = .ok () ∧ DiskCall.writes calls = writesIn directory others := by
  cases files with
  | nil => cases written
  | cons file others =>
      obtain ⟨inner, content⟩ := file
      obtain ⟨first, rest⟩ := List.cons.inj written
      obtain ⟨rfl, rfl, rfl⟩ : path = _ ∧ text = _ ∧ result = _ := by simpa using first
      exact ⟨inner, others, rfl, rfl, rfl, rest⟩

/-- A file inside a directory stays as it is while others are written there. -/
theorem Performs.keeps {disk after : Disk} {calls : List DiskCall}
    (performs : disk.Performs calls after) {directory : Path} {files : List (Path × String)}
    (written : DiskCall.writes calls = writesIn directory files)
    (plain : ∀ file ∈ files, file.1.isPlain = true) {base names : List String}
    (reached : Reaches disk (disk.origin directory) directory.front base)
    (apart : ∀ file ∈ files, file.1.names ≠ names) {content : ByteArray}
    (there : disk.at? (base ++ names) = some (.file content)) :
    after.at? (base ++ names) = some (.file content) := by
  -- A directory is made where nothing is, and a write goes to a place with other names below
  -- the same base: each call leaves the file alone, and the base is where it was.
  induction performs generalizing files with
  | nil => exact there
  | @failed disk after call calls cause refused error rest ih =>
      cases call with
      | makeDirectory path result => exact ih written plain reached apart there
      | write path text result =>
          obtain ⟨_, _, _, _, rfl, _⟩ := writesIn_cons written
          cases error
  | @done disk next after call calls made ok rest ih =>
      have within := within_attempt made
      have onward := within.origin directory ▸ within.reaches reached
      cases call with
      | makeDirectory path result =>
          obtain ⟨place, below, free, rfl⟩ := makeDirectory_ok made
          refine ih written plain onward apart ?_
          have elsewhere : base ++ names ≠ place := by
            rintro rfl
            rw [free] at there
            cases there
          rw [at?_put disk below, if_neg elsewhere, there]
      | write path text result =>
          obtain ⟨inner, others, rfl, rfl, -, written⟩ := writesIn_cons written
          obtain ⟨holder, name, leads, free, rfl⟩ := write_ok made
          obtain ⟨same, reached', place⟩ := leads.join (plain _ List.mem_cons_self)
          obtain rfl : base = same := reached.unique reached'
          refine ih written (fun file member => plain file (List.mem_cons_of_mem _ member)) onward
            (fun file member => apart file (List.mem_cons_of_mem _ member)) ?_
          have elsewhere : base ++ names ≠ holder ++ [name] := by
            rw [place, ne_eq, List.append_cancel_left_eq]
            exact (apart _ List.mem_cons_self).symm
          rw [at?_put disk (by simp), if_neg elsewhere, there]

/-- What was written inside a directory under different names is read back afterwards. -/
theorem Performs.reads {disk after : Disk} {calls : List DiskCall}
    (performs : disk.Performs calls after) {directory : Path} {files : List (Path × String)}
    (written : DiskCall.writes calls = writesIn directory files)
    (plain : ∀ file ∈ files, file.1.isPlain = true)
    (apart : files.Pairwise fun one other => one.1.names ≠ other.1.names) :
    ∀ file ∈ files, after.read (directory.join file.1) = .ok file.2.toUTF8 := by
  -- What the first write puts on the disk is kept by the calls after it; the files of the
  -- other writes are those of the induction hypothesis.
  induction performs generalizing files with
  | nil disk =>
      obtain rfl := List.map_eq_nil_iff.mp written.symm
      simp
  | @failed disk after call calls cause refused error rest ih =>
      cases call with
      | makeDirectory path result => exact ih written plain apart
      | write path text result =>
          obtain ⟨_, _, _, _, rfl, _⟩ := writesIn_cons written
          cases error
  | @done disk next after call calls made ok rest ih =>
      cases call with
      | makeDirectory path result => exact ih written plain apart
      | write path text result =>
          obtain ⟨inner, others, rfl, rfl, -, othersWritten⟩ := writesIn_cons written
          have plainOthers : ∀ file ∈ others, file.1.isPlain = true := fun file member =>
            plain file (List.mem_cons_of_mem _ member)
          obtain ⟨first, restApart⟩ := List.pairwise_cons.mp apart
          have later := ih othersWritten plainOthers restApart
          have within := within_attempt made
          obtain ⟨holder, name, leads, -, rfl⟩ := write_ok made
          obtain ⟨base, reached, place⟩ := leads.join (plain _ List.mem_cons_self)
          have there : (disk.put (holder ++ [name]) (.file text.toUTF8)).at? (base ++ inner.names) =
              some (.file text.toUTF8) := by
            rw [at?_put disk (by simp), if_pos place.symm]
          have onward := within.origin directory ▸ within.reaches reached
          have kept := rest.keeps othersWritten plainOthers onward
            (fun file member => (first file member).symm) there
          have read := (leads.within (within.trans rest.within)).read (place ▸ kept)
          exact List.forall_mem_cons.mpr ⟨read, later⟩

end SchemaDefaults.Disk
