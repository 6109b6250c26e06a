/-
# Watching a directory

`tapio watch` prints what the file sink writes. The sink creates an empty file and then
writes its content; the watcher lists the directory again and again, and reads each file
that it has not seen before. The steps of any number of sends interleave with the scans,
and a scan visits the files one by one.

A file is marked as seen before it is read. A file that is visited between its creation and
the end of its write reads as empty, is skipped with a warning and is never read again. In
all other runs each valid occurrence is printed exactly once.
-/
import Tapio.Agent.Container
import Tapio.Common.OccurrenceText
import Tapio.Transition.Machine
import Mathlib.Data.List.Sort

namespace Tapio.Cli

open Common Transition

/-! ## Files -/

/-- How an occurrence is written into a file and read from one. -/
structure OccurrenceFormat where
  toVecPretty : Occurrence → String
  fromStr : String → Except String Occurrence

/-- The same document, as far as reading validates, filters and prints it. -/
structure SameDocument (written read : Occurrence) : Prop where
  id : read.id = written.id
  source : read.source = written.source
  occurrenceType : read.occurrenceType = written.occurrenceType
  protocolVersion : read.protocolVersion = written.protocolVersion

/-- What is written can be read back. -/
def Readable (format : OccurrenceFormat) (occurrence : Occurrence) : Prop :=
  ∃ read, format.fromStr (format.toVecPretty occurrence) = .ok read ∧ SameDocument occurrence read

def readOccurrenceFile (format : OccurrenceFormat) (data : Except String String) :
    Except String Occurrence :=
  match data with
  | .error error => .error ("failed to read occurrence file: " ++ error)
  | .ok text =>
      match format.fromStr text with
      | .error error => .error ("failed to parse occurrence JSON: " ++ error)
      | .ok occurrence =>
          match occurrence.validate with
          | .error errors => .error ("invalid occurrence: " ++ "; ".intercalate errors)
          | .ok () => .ok occurrence

def observerCategory (occurrenceType : String) : String :=
  ((Text.split occurrenceType '.')[1]?).getD "unknown"

def matchesFilter (filters : List String) (occurrence : Occurrence) : Bool :=
  filters.isEmpty || filters.contains (observerCategory occurrence.occurrenceType)

/-- What follows the last point of a file name, if something precedes it. -/
def extension (fileName : String) : Option String :=
  if (fileName.toList.rdropWhile (· ≠ '.')).length ≤ 1 then none
  else some (String.ofList (fileName.toList.rtakeWhile (· ≠ '.')))

/-- The file of a `send`; without its content as long as the write has not ended. -/
structure DirFile where
  occurrence : Occurrence
  written : Bool

def DirFile.name (file : DirFile) : String := file.occurrence.id ++ ".json"

def DirFile.content (format : OccurrenceFormat) (file : DirFile) : String :=
  if file.written then format.toVecPretty file.occurrence else ""

/-! ## The watcher -/

inductive WatchPhase
  | starting
  | sleeping
  /-- A scan that still has to visit some files, with what it has read. -/
  | scanning (pending : List String) (newOccs : List Occurrence)

/-- The directory and the watcher. Beside its own state there are the files that it found
at first, and those that were written when its current and its last finished scan began. -/
structure Watch where
  files : List DirFile
  seen : List String
  phase : WatchPhase
  printed : List Occurrence
  listed : List String
  writtenAtStart : List String
  scanned : List String

def Watch.names (s : Watch) : List String := s.files.map DirFile.name

def Watch.writtenNames (s : Watch) : List String :=
  (s.files.filter DirFile.written).map DirFile.name

inductive WatchStep
  /-- A `send` creates its file, under an id that is new. -/
  | create (occurrence : Occurrence)
  /-- A `send` writes its file. -/
  | write (name : String)
  /-- The watcher marks what is there as seen. -/
  | list
  | startScan
  | visit (name : String)
  | endScan

/-- Read an unseen file. -/
def Watch.readNew (format : OccurrenceFormat) (file : DirFile) (newOccs : List Occurrence) :
    List Occurrence :=
  if extension file.name = some "json" then
    match readOccurrenceFile format (.ok (file.content format)) with
    | .ok occurrence => newOccs ++ [occurrence]
    | .error _ => newOccs
  else newOccs

/-- Mark a file as seen, and read it if it was not. -/
def Watch.visit (format : OccurrenceFormat) (s : Watch) (file : DirFile) (pending : List String)
    (newOccs : List Occurrence) : Watch :=
  if file.name ∈ s.seen then
    { s with phase := .scanning (pending.filter (· ≠ file.name)) newOccs }
  else
    { s with
      seen := file.name :: s.seen
      phase := .scanning (pending.filter (· ≠ file.name)) (Watch.readNew format file newOccs) }

/-- What a scan prints: the occurrences that pass the filter, sorted by their time. -/
def output (filters : List String) (newOccs : List Occurrence) : List Occurrence :=
  (newOccs.mergeSort fun a b => a.timestamp ≤ b.timestamp).filter (matchesFilter filters)

def watchStep (format : OccurrenceFormat) (filters : List String) (s : Watch) :
    WatchStep → Option Watch
  | .create occurrence =>
      let file : DirFile := ⟨occurrence, false⟩
      if occurrence.id ≠ "" ∧ file.name ∉ s.names then some { s with files := file :: s.files }
      else none
  | .write name =>
      some { s with
        files := s.files.map fun file =>
          if file.name = name then { file with written := true } else file }
  | .list =>
      match s.phase with
      | .starting => some { s with seen := s.names, listed := s.names, phase := .sleeping }
      | _ => none
  | .startScan =>
      match s.phase with
      | .sleeping =>
          some { s with phase := .scanning s.names [], writtenAtStart := s.writtenNames }
      | _ => none
  | .visit name =>
      match s.phase with
      | .scanning pending newOccs =>
          (s.files.find? (·.name = name)).map fun file => s.visit format file pending newOccs
      | _ => none
  | .endScan =>
      match s.phase with
      | .scanning [] newOccs =>
          some { s with
            phase := .sleeping
            printed := s.printed ++ output filters newOccs
            scanned := s.writtenAtStart }
      | _ => none

def Watch.new : Watch := ⟨[], [], .starting, [], [], [], []⟩

def watchMachine (format : OccurrenceFormat) (filters : List String) : Machine Watch WatchStep where
  init := Watch.new
  step := watchStep format filters

/-- How often the occurrence with the id has been printed. -/
def Watch.timesPrinted (s : Watch) (id : String) : ℕ := s.printed.countP (·.id = id)

/-- Nothing is printed twice. What a file holds that was created after the first listing,
and written before the start of a scan that has ended, has been printed if it is valid and
passes the filter. -/
structure PrintedOnce (filters : List String) (s : Watch) : Prop where
  atMostOnce : ∀ id, s.timesPrinted id ≤ 1
  once : ∀ file ∈ s.files, file.name ∉ s.listed → file.name ∈ s.scanned →
    file.occurrence.validate = .ok () → matchesFilter filters file.occurrence →
      s.timesPrinted file.occurrence.id = 1

/-- A file is not visited for the first time before it has been written. -/
def VisitsWritten (s : Watch) (a : WatchStep) : Prop :=
  match a with
  | .visit name => name ∈ s.seen ∨ ∀ file ∈ s.files, file.name = name → file.written = true
  | _ => True

/-! ## What a visit reads -/

def fileName (occurrence : Occurrence) : String := occurrence.id ++ ".json"

theorem extension_fileName {occurrence : Occurrence} (h : occurrence.id ≠ "") :
    extension (fileName occurrence) = some "json" := by
  have htext :
      (fileName occurrence).toList = occurrence.id.toList ++ ['.', 'j', 's', 'o', 'n'] := by
    simp [fileName]
  have hbefore : (fileName occurrence).toList.rdropWhile (· ≠ '.') =
      occurrence.id.toList ++ ['.'] := by
    rw [htext, List.rdropWhile, List.reverse_append]
    simp [List.dropWhile]
  have hafter : (fileName occurrence).toList.rtakeWhile (· ≠ '.') = ['j', 's', 'o', 'n'] := by
    rw [htext, List.rtakeWhile, List.reverse_append]
    simp [List.takeWhile]
  have hlength : 0 < occurrence.id.toList.length := by
    refine List.length_pos_iff.mpr fun hnil => h ?_
    exact String.toList_eq_nil_iff.mp hnil
  rw [extension, hbefore, hafter, if_neg (by rw [List.length_append, List.length_singleton]; omega)]

theorem SameDocument.validate_iff {written read : Occurrence} (h : SameDocument written read) :
    read.validate = .ok () ↔ written.validate = .ok () := by
  rw [Occurrence.validate_ok_iff, Occurrence.validate_ok_iff, h.source, h.occurrenceType,
    h.protocolVersion]

theorem SameDocument.matchesFilter_eq {written read : Occurrence} (h : SameDocument written read)
    (filters : List String) : matchesFilter filters read = matchesFilter filters written := by
  rw [matchesFilter, matchesFilter, h.occurrenceType]

/-- A file that has been written is read as the document it was written from, if that is
valid. -/
theorem readNew_of_written {format : OccurrenceFormat} {file : DirFile}
    (hid : file.occurrence.id ≠ "") (hwritten : file.written = true)
    (hreadable : Readable format file.occurrence) (newOccs : List Occurrence) :
    ∃ read, SameDocument file.occurrence read ∧
      (file.occurrence.validate = .ok () → Watch.readNew format file newOccs = newOccs ++ [read]) ∧
      (file.occurrence.validate ≠ .ok () → Watch.readNew format file newOccs = newOccs) := by
  obtain ⟨read, hread, hsame⟩ := hreadable
  have hname : extension file.name = some "json" := extension_fileName hid
  have hcontent : file.content format = format.toVecPretty file.occurrence := if_pos hwritten
  refine ⟨read, hsame, fun hvalid => ?_, fun hinvalid => ?_⟩
  · have hok := hsame.validate_iff.mpr hvalid
    simp only [Watch.readNew, if_pos hname, hcontent, readOccurrenceFile, hread, hok]
  · cases herrors : read.validate with
    | ok => exact absurd (hsame.validate_iff.mp herrors) hinvalid
    | error errors =>
        simp only [Watch.readNew, if_pos hname, hcontent, readOccurrenceFile, hread, herrors]

/-! ## What has been printed -/

def Watch.occurrences (s : Watch) : List Occurrence := s.files.map (·.occurrence)

theorem names_eq (s : Watch) : s.names = s.occurrences.map fileName := by
  rw [Watch.names, Watch.occurrences, List.map_map]
  rfl

def WatchPhase.newOccs : WatchPhase → List Occurrence
  | .scanning _ newOccs => newOccs
  | .starting | .sleeping => []

/-- What has been printed, and what the scan in progress will print. -/
def Watch.emitted (s : Watch) (filters : List String) : List Occurrence :=
  s.printed ++ s.phase.newOccs.filter (matchesFilter filters)

/-- A valid occurrence that passes the filter, in a file that the watcher has seen but did
not find at first. -/
structure Due (filters seen listed : List String) (occurrence : Occurrence) : Prop where
  seen : fileName occurrence ∈ seen
  notListed : fileName occurrence ∉ listed
  valid : occurrence.validate = .ok ()
  passes : matchesFilter filters occurrence

structure WatchInvariant (format : OccurrenceFormat) (filters : List String) (s : Watch) :
    Prop where
  names : (s.occurrences.map fileName).Nodup
  ids : ∀ occurrence ∈ s.occurrences, occurrence.id ≠ ""
  readable : ∀ occurrence ∈ s.occurrences, Readable format occurrence
  seen : ∀ name ∈ s.seen, name ∈ s.occurrences.map fileName
  listed : ∀ name ∈ s.listed, name ∈ s.seen
  starting : s.phase = .starting → s.printed = []
  pending : ∀ names newOccs, s.phase = .scanning names newOccs →
    ∀ name ∈ s.writtenAtStart, name ∈ s.seen ∨ name ∈ names
  scanned : ∀ name ∈ s.scanned, name ∈ s.seen
  due : ∀ occurrence ∈ s.occurrences, Due filters s.seen s.listed occurrence →
    (s.emitted filters).countP (·.id = occurrence.id) = 1
  notDue : ∀ occurrence ∈ s.occurrences, ¬ Due filters s.seen s.listed occurrence →
    (s.emitted filters).countP (·.id = occurrence.id) = 0
  others : ∀ id, (∀ occurrence ∈ s.occurrences, occurrence.id ≠ id) →
    (s.emitted filters).countP (·.id = id) = 0
  printed : ∀ occurrence ∈ s.occurrences, fileName occurrence ∈ s.scanned →
    Due filters s.seen s.listed occurrence → s.timesPrinted occurrence.id = 1

theorem watchInvariant_new (format : OccurrenceFormat) (filters : List String) :
    WatchInvariant format filters Watch.new where
  names := List.nodup_nil
  ids _ h := absurd h List.not_mem_nil
  readable _ h := absurd h List.not_mem_nil
  seen _ h := absurd h List.not_mem_nil
  listed _ h := absurd h List.not_mem_nil
  starting _ := rfl
  pending _ _ _ _ h := absurd h List.not_mem_nil
  scanned _ h := absurd h List.not_mem_nil
  due _ h := absurd h List.not_mem_nil
  notDue _ h := absurd h List.not_mem_nil
  others _ _ := rfl
  printed _ h := absurd h List.not_mem_nil

theorem fileName_inj {first second : Occurrence} (h : fileName first = fileName second) :
    first.id = second.id := by
  have htext := congrArg String.toList h
  simp only [fileName, String.toList_append] at htext
  exact String.toList_inj.mp (List.append_cancel_right htext)

/-- Different files have different ids. -/
theorem WatchInvariant.id_ne {format : OccurrenceFormat} {filters : List String} {s : Watch}
    (hs : WatchInvariant format filters s) {first second : Occurrence}
    (hfirst : first ∈ s.occurrences) (hsecond : second ∈ s.occurrences) (hne : first ≠ second) :
    first.id ≠ second.id :=
  fun heq => hne (List.inj_on_of_nodup_map hs.names hfirst hsecond
    (congrArg (· ++ ".json") heq))

/-! ## The steps -/

theorem watchInvariant_create {format : OccurrenceFormat} {filters : List String} {s : Watch}
    (hs : WatchInvariant format filters s) {occurrence : Occurrence}
    (hreadable : Readable format occurrence) (hid : occurrence.id ≠ "")
    (hnew : fileName occurrence ∉ s.occurrences.map fileName) :
    WatchInvariant format filters { s with files := ⟨occurrence, false⟩ :: s.files } := by
  have hunseen : fileName occurrence ∉ s.seen := fun h => hnew (hs.seen _ h)

  refine ⟨List.nodup_cons.mpr ⟨hnew, hs.names⟩, List.forall_mem_cons.mpr ⟨hid, hs.ids⟩,
    List.forall_mem_cons.mpr ⟨hreadable, hs.readable⟩,
    fun name hname => List.mem_cons_of_mem _ (hs.seen name hname), hs.listed, hs.starting,
    hs.pending, hs.scanned, ?_, ?_, ?_, ?_⟩
  · refine List.forall_mem_cons.mpr ⟨fun h => absurd h.seen hunseen, fun other hother h => ?_⟩
    exact hs.due other hother h
  · refine List.forall_mem_cons.mpr ⟨fun _ => hs.others _ fun other hother heq => ?_,
      fun other hother h => hs.notDue other hother fun h' => h ?_⟩
    · exact hnew (List.mem_map.mpr ⟨other, hother, congrArg (· ++ ".json") heq⟩)
    · exact ⟨h'.seen, h'.notListed, h'.valid, h'.passes⟩
  · exact fun id h => hs.others id fun other hother => h other (List.mem_cons_of_mem _ hother)
  · refine List.forall_mem_cons.mpr ⟨fun h => absurd (hs.scanned _ h) hunseen,
      fun other hother hscanned h => ?_⟩
    exact hs.printed other hother hscanned h

theorem watchInvariant_write {format : OccurrenceFormat} {filters : List String} {s : Watch}
    (hs : WatchInvariant format filters s) {files : List DirFile}
    (hsame : files.map (·.occurrence) = s.occurrences) :
    WatchInvariant format filters { s with files := files } := by
  have hocc : Watch.occurrences { s with files := files } = s.occurrences := hsame

  constructor
  all_goals try rw [hocc]
  · exact hs.names
  · exact hs.ids
  · exact hs.readable
  · exact hs.seen
  · exact hs.listed
  · exact hs.starting
  · exact hs.pending
  · exact hs.scanned
  · exact hs.due
  · exact hs.notDue
  · exact hs.others
  · exact hs.printed

/-- Nothing is due among the files found at first. -/
theorem watchInvariant_list {format : OccurrenceFormat} {filters : List String} {s : Watch}
    (hs : WatchInvariant format filters s) (hphase : s.phase = .starting) :
    WatchInvariant format filters
      { s with seen := s.names, listed := s.names, phase := .sleeping } := by
  have hnames := names_eq s
  have hprinted := hs.starting hphase
  have hemitted : Watch.emitted { s with seen := s.names, listed := s.names, phase := .sleeping }
      filters = [] := by
    simp [Watch.emitted, hprinted, WatchPhase.newOccs]
  have hnone : ∀ {other}, ¬ Due filters s.names s.names other := fun h => h.notListed h.seen
  refine ⟨hs.names, hs.ids, hs.readable, fun name hname => hnames ▸ hname, fun _ h => h, nofun,
    nofun, fun name hname => ?_, fun _ _ h => absurd h hnone, ?_, ?_,
    fun _ _ _ h => absurd h hnone⟩
  · rw [hnames]
    exact hs.seen name (hs.scanned name hname)
  · intro _ _ _
    rw [hemitted]
    rfl
  · intro _ _
    rw [hemitted]
    rfl

theorem watchInvariant_startScan {format : OccurrenceFormat} {filters : List String} {s : Watch}
    (hs : WatchInvariant format filters s) (hphase : s.phase = .sleeping) :
    WatchInvariant format filters
      { s with phase := .scanning s.names [], writtenAtStart := s.writtenNames } := by
  have hemitted : Watch.emitted
      { s with phase := .scanning s.names [], writtenAtStart := s.writtenNames } filters =
      s.emitted filters := by
    simp [Watch.emitted, hphase, WatchPhase.newOccs]

  refine ⟨hs.names, hs.ids, hs.readable, hs.seen, hs.listed, nofun, ?_, hs.scanned, ?_, ?_, ?_, ?_⟩
  · rintro _ _ ⟨⟩ name hname
    refine .inr ?_
    obtain ⟨file, hfile, rfl⟩ := List.mem_map.mp hname
    exact List.mem_map_of_mem (List.mem_filter.mp hfile).1
  · intro other hother h
    rw [hemitted]
    exact hs.due other hother h
  · intro other hother h
    rw [hemitted]
    exact hs.notDue other hother h
  · intro id h
    rw [hemitted]
    exact hs.others id h
  · exact fun other hother hscanned h => hs.printed other hother hscanned h

/-- What is pending is pending or seen after a visit. -/
theorem pending_of_visit {format : OccurrenceFormat} {filters : List String} {s : Watch}
    (hs : WatchInvariant format filters s) {pending : List String} {newOccs : List Occurrence}
    (hphase : s.phase = .scanning pending newOccs) (visited : String) :
    ∀ name ∈ s.writtenAtStart,
      name ∈ visited :: s.seen ∨ name ∈ pending.filter (· ≠ visited) := by
  intro name hname
  by_cases heq : name = visited
  · exact .inl (heq ▸ List.mem_cons_self)
  · rcases hs.pending _ _ hphase name hname with hseen | hpending
    · exact .inl (List.mem_cons_of_mem _ hseen)
    · exact .inr (List.mem_filter.mpr ⟨hpending, decide_eq_true heq⟩)

theorem watchInvariant_visitSeen {format : OccurrenceFormat} {filters : List String} {s : Watch}
    (hs : WatchInvariant format filters s) {pending : List String} {newOccs : List Occurrence}
    (hphase : s.phase = .scanning pending newOccs) {visited : String} (hseen : visited ∈ s.seen) :
    WatchInvariant format filters
      { s with phase := .scanning (pending.filter (· ≠ visited)) newOccs } := by
  have hemitted : Watch.emitted
      { s with phase := .scanning (pending.filter (· ≠ visited)) newOccs } filters =
      s.emitted filters := by
    simp [Watch.emitted, hphase, WatchPhase.newOccs]

  refine ⟨hs.names, hs.ids, hs.readable, hs.seen, hs.listed, nofun, ?_, hs.scanned, ?_, ?_, ?_, ?_⟩
  · rintro _ _ ⟨⟩ name hname
    rcases pending_of_visit hs hphase visited name hname with hcons | hpending
    · rcases List.mem_cons.mp hcons with rfl | hmem
      · exact .inl hseen
      · exact .inl hmem
    · exact .inr hpending
  · intro other hother h
    rw [hemitted]
    exact hs.due other hother h
  · intro other hother h
    rw [hemitted]
    exact hs.notDue other hother h
  · intro id h
    rw [hemitted]
    exact hs.others id h
  · exact fun other hother hscanned h => hs.printed other hother hscanned h

/-- What an unseen file that has been written adds to what is emitted. -/
theorem countP_readNew {format : OccurrenceFormat} (filters : List String) {file : DirFile}
    (hid : file.occurrence.id ≠ "") (hwritten : file.written = true)
    (hreadable : Readable format file.occurrence) (newOccs : List Occurrence) (id : String) :
    ((Watch.readNew format file newOccs).filter (matchesFilter filters)).countP (·.id = id) =
      (newOccs.filter (matchesFilter filters)).countP (·.id = id) +
        if file.occurrence.validate = .ok () ∧ matchesFilter filters file.occurrence ∧
          file.occurrence.id = id then 1 else 0 := by
  obtain ⟨read, hsame, hvalid, hinvalid⟩ := readNew_of_written hid hwritten hreadable newOccs
  have hpasses := hsame.matchesFilter_eq filters
  by_cases hok : file.occurrence.validate = .ok ()
  · rw [hvalid hok, List.filter_append, List.countP_append, List.filter_singleton, hpasses]
    cases matchesFilter filters file.occurrence with
    | true =>
        rw [cond_true, List.countP_singleton, hsame.id]
        simp [hok]
    | false => simp
  · rw [hinvalid hok, if_neg fun h => hok h.1, Nat.add_zero]

theorem countP_emitted_visitNew {format : OccurrenceFormat} {filters : List String} {s : Watch}
    (hs : WatchInvariant format filters s) {pending pending' : List String}
    {newOccs : List Occurrence} (hphase : s.phase = .scanning pending newOccs) {file : DirFile}
    (hmem : file.occurrence ∈ s.occurrences) (hwritten : file.written = true) (id : String) :
    (Watch.emitted
        { s with
          seen := file.name :: s.seen
          phase := .scanning pending' (Watch.readNew format file newOccs) } filters).countP
        (·.id = id) =
      (s.emitted filters).countP (·.id = id) +
        if file.occurrence.validate = .ok () ∧ matchesFilter filters file.occurrence ∧
          file.occurrence.id = id then 1 else 0 := by
  have hread := countP_readNew filters (hs.ids _ hmem) hwritten (hs.readable _ hmem) newOccs id
  simp only [Watch.emitted, hphase, WatchPhase.newOccs, List.countP_append, hread]
  exact (Nat.add_assoc _ _ _).symm

theorem watchInvariant_visitNew {format : OccurrenceFormat} {filters : List String} {s : Watch}
    (hs : WatchInvariant format filters s) {pending : List String} {newOccs : List Occurrence}
    (hphase : s.phase = .scanning pending newOccs) {file : DirFile} (hfile : file ∈ s.files)
    (hwritten : file.written = true) (hunseen : file.name ∉ s.seen) :
    WatchInvariant format filters
      { s with
        seen := file.name :: s.seen
        phase := .scanning (pending.filter (· ≠ file.name))
          (Watch.readNew format file newOccs) } := by
  have hmem : file.occurrence ∈ s.occurrences := List.mem_map_of_mem hfile
  have hunlisted : file.name ∉ s.listed := fun h => hunseen (hs.listed _ h)
  have hcount := @countP_emitted_visitNew format filters s hs pending
    (pending.filter (· ≠ file.name)) newOccs hphase file hmem hwritten
  have hzero := hs.notDue _ hmem fun h => hunseen h.seen
  -- only the count of the file's own occurrence changes
  have hothers : ∀ id, file.occurrence.id ≠ id → _ = (s.emitted filters).countP (·.id = id) :=
    fun id hne => (hcount id).trans (by rw [if_neg fun h => hne h.2.2, Nat.add_zero])
  have hid : ∀ other ∈ s.occurrences, other ≠ file.occurrence → file.occurrence.id ≠ other.id :=
    fun other hother hne => hs.id_ne hmem hother (Ne.symm hne)
  have hseen : ∀ other ∈ s.occurrences, other ≠ file.occurrence →
      fileName other ∈ file.name :: s.seen → fileName other ∈ s.seen := by
    intro other hother hne hcons
    rcases List.mem_cons.mp hcons with heq | hold
    · exact absurd (fileName_inj heq).symm (hid other hother hne)
    · exact hold
  refine ⟨hs.names, hs.ids, hs.readable, ?_, fun name hname => List.mem_cons_of_mem _
    (hs.listed name hname), nofun, ?_, fun name hname => List.mem_cons_of_mem _
    (hs.scanned name hname), ?_, ?_, ?_, ?_⟩
  · exact List.forall_mem_cons.mpr ⟨List.mem_map_of_mem hmem, hs.seen⟩
  · rintro _ _ ⟨⟩
    exact pending_of_visit hs hphase file.name
  · intro other hother h
    by_cases hne : other = file.occurrence
    · subst hne
      rw [hcount, hzero, if_pos ⟨h.valid, h.passes, rfl⟩]
    · refine (hothers _ (hid other hother hne)).trans (hs.due other hother ?_)
      exact ⟨hseen other hother hne h.seen, h.notListed, h.valid, h.passes⟩
  · intro other hother h
    by_cases hne : other = file.occurrence
    · subst hne
      rw [hcount, hzero, if_neg]
      exact fun hgood => h ⟨List.mem_cons_self, hunlisted, hgood.1, hgood.2.1⟩
    · refine (hothers _ (hid other hother hne)).trans (hs.notDue other hother fun h' => h ?_)
      exact ⟨List.mem_cons_of_mem _ h'.seen, h'.notListed, h'.valid, h'.passes⟩
  · exact fun id h => (hothers id (h _ hmem)).trans (hs.others id h)
  · intro other hother hscanned h
    exact hs.printed other hother hscanned ⟨hs.scanned _ hscanned, h.notListed, h.valid, h.passes⟩

theorem countP_output (filters : List String) (newOccs : List Occurrence) (id : String) :
    (output filters newOccs).countP (·.id = id) =
      (newOccs.filter (matchesFilter filters)).countP (·.id = id) :=
  ((List.mergeSort_perm newOccs _).filter _).countP_eq _

/-- At the end of a scan everything that was read is printed. -/
theorem watchInvariant_endScan {format : OccurrenceFormat} {filters : List String} {s : Watch}
    (hs : WatchInvariant format filters s) {newOccs : List Occurrence}
    (hphase : s.phase = .scanning [] newOccs) :
    WatchInvariant format filters
      { s with
        phase := .sleeping
        printed := s.printed ++ output filters newOccs
        scanned := s.writtenAtStart } := by
  have hemitted : ∀ id, (s.printed ++ output filters newOccs).countP (·.id = id) =
      (s.emitted filters).countP (·.id = id) := by
    intro id
    rw [Watch.emitted, hphase, List.countP_append, List.countP_append, countP_output]
    rfl
  have hsame : ∀ id, (Watch.emitted { s with
        phase := .sleeping
        printed := s.printed ++ output filters newOccs
        scanned := s.writtenAtStart } filters).countP (·.id = id) =
      (s.emitted filters).countP (·.id = id) := by
    intro id
    rw [← hemitted]
    simp [Watch.emitted, WatchPhase.newOccs]
  have hseen : ∀ name ∈ s.writtenAtStart, name ∈ s.seen := by
    intro name hname
    exact (hs.pending _ _ hphase name hname).resolve_right List.not_mem_nil

  refine ⟨hs.names, hs.ids, hs.readable, hs.seen, hs.listed, nofun, nofun, hseen, ?_, ?_, ?_, ?_⟩
  · intro other hother h
    rw [hsame]
    exact hs.due other hother h
  · intro other hother h
    rw [hsame]
    exact hs.notDue other hother h
  · intro id h
    rw [hsame]
    exact hs.others id h
  · intro other hother _ h
    exact (hemitted other.id).trans (hs.due other hother h)

/-- What a step needs: a file that is created can be read back, and a file is visited first
after it has been written. -/
def Readied (format : OccurrenceFormat) (s : Watch) (a : WatchStep) : Prop :=
  (∀ occurrence, a = .create occurrence → Readable format occurrence) ∧ VisitsWritten s a

theorem watchInvariant_of_step {format : OccurrenceFormat} {filters : List String} {s t : Watch}
    {a : WatchStep} (hs : WatchInvariant format filters s) (hready : Readied format s a)
    (hstep : watchStep format filters s a = some t) : WatchInvariant format filters t := by
  unfold watchStep at hstep
  split at hstep
  · obtain ⟨⟨hid, hnew⟩, hstep⟩ := Option.ite_none_right_eq_some.mp hstep
    cases hstep
    rw [names_eq] at hnew
    exact watchInvariant_create hs (hready.1 _ rfl) hid hnew
  · cases hstep
    refine watchInvariant_write hs ?_
    rw [List.map_map]
    refine List.map_congr_left fun file _ => ?_
    rw [Function.comp_apply]
    split <;> rfl
  · split at hstep
    · next hphase =>
        cases hstep
        exact watchInvariant_list hs hphase
    · cases hstep
  · split at hstep
    · next hphase =>
        cases hstep
        exact watchInvariant_startScan hs hphase
    · cases hstep
  · split at hstep
    · next name _ pending newOccs hphase =>
        obtain ⟨file, hfind, rfl⟩ := Option.map_eq_some_iff.mp hstep
        have hfile := List.mem_of_find?_eq_some hfind
        obtain rfl : file.name = name := by simpa using List.find?_some hfind
        rw [Watch.visit]
        split
        · next hseen => exact watchInvariant_visitSeen hs hphase hseen
        · next hunseen =>
            have hwritten := (hready.2.resolve_left hunseen) file hfile rfl
            exact watchInvariant_visitNew hs hphase hfile hwritten hunseen
    · cases hstep
  · split at hstep
    · next hphase =>
        cases hstep
        exact watchInvariant_endScan hs hphase
    · cases hstep

theorem printedOnce_of_invariant {format : OccurrenceFormat} {filters : List String} {s : Watch}
    (hs : WatchInvariant format filters s) : PrintedOnce filters s := by
  constructor
  · intro id
    have hle : s.timesPrinted id ≤ (s.emitted filters).countP (·.id = id) := by
      rw [Watch.timesPrinted, Watch.emitted, List.countP_append]
      exact Nat.le_add_right _ _
    by_cases hid : ∃ occurrence ∈ s.occurrences, occurrence.id = id
    · obtain ⟨occurrence, hmem, rfl⟩ := hid
      by_cases hdue : Due filters s.seen s.listed occurrence
      · exact hle.trans (hs.due occurrence hmem hdue).le
      · exact hle.trans ((hs.notDue occurrence hmem hdue).le.trans (Nat.zero_le 1))
    · have hnone := hs.others id fun occurrence hmem heq => hid ⟨occurrence, hmem, heq⟩
      exact hle.trans (hnone.le.trans (Nat.zero_le 1))
  · intro file hfile hunlisted hscanned hvalid hpasses
    exact hs.printed _ (List.mem_map_of_mem hfile) hscanned
      ⟨hs.scanned _ hscanned, hunlisted, hvalid, hpasses⟩

/-- **Every new occurrence is printed exactly once** in every run in which no file is
visited for the first time before it has been written. -/
theorem printedOnce_always (format : OccurrenceFormat) (filters : List String)
    {schedule : List WatchStep}
    (hreadable : ∀ occurrence, WatchStep.create occurrence ∈ schedule → Readable format occurrence)
    (hvisits : (watchMachine format filters).EachStep VisitsWritten Watch.new schedule) :
    (watchMachine format filters).Always (PrintedOnce filters) Watch.new schedule := by
  have hcreates : (watchMachine format filters).EachStep
      (fun _ a => ∀ occurrence, a = .create occurrence → Readable format occurrence)
      Watch.new schedule := by
    refine Machine.eachStep_of_mem ?_
    intro a hmem _ occurrence heq
    exact hreadable occurrence (heq ▸ hmem)
  have halways := Machine.always_of_eachStep (M := watchMachine format filters)
    (C := Readied format) watchInvariant_of_step (watchInvariant_new format filters)
    (hcreates.and hvisits)
  exact halways.mono fun s hs => printedOnce_of_invariant hs

instance (s : Watch) (a : WatchStep) : Decidable (VisitsWritten s a) :=
  match a with
  | .visit name =>
      inferInstanceAs (Decidable (name ∈ s.seen ∨ ∀ file ∈ s.files, file.name = name → _))
  | .create _ | .write _ | .list | .startScan | .endScan => isTrue trivial

/-! ## Kills of containers -/

/-- How documents without floats are written, and how they and empty files are read. -/
def serdeJson : OccurrenceFormat where
  toVecPretty := Occurrence.toStringPretty Json.integerFormat
  fromStr text :=
    match Occurrence.fromStr (fun _ => none) text with
    | some occurrence => .ok occurrence
    | none => .error "EOF while parsing a value at line 1 column 0"

/-- A kill as the probe reports it. -/
def killed : ContainerEvent where
  configGeneration := 3
  memoryLimit := 536870912
  memoryUsage := 536866816
  timestampNs := 123456789
  cgroupId := 6871
  eventType := containerEventOom
  pid := 4242
  tid := 4242
  exitCode := 137
  signal := 9

def killAnomaly : Agent.ClassifiedAnomaly where
  eventType := Agent.containerOomKill
  severity := .critical
  outcome := .failure
  errorCode := "OOM_KILL"
  errorMessage := "OOM kill pid=4242 (usage=511MB, limit=512MB)"

example : Agent.Container.classify killed = some killAnomaly := by decide +kernel

/-- The occurrence of the kill, with its error and its data. -/
def oomKill (id : String) : Occurrence :=
  Agent.Container.buildOccurrence id killed killAnomaly 1705314600000000000 none

theorem readable_oomKill (id : String) : Readable serdeJson (oomKill id) := by
  have hscalar := Agent.Container.scalar_data killed none
  have hread : Occurrence.fromStr (fun _ => none) (serdeJson.toVecPretty (oomKill id)) =
      some (oomKill id) := by
    refine Occurrence.fromStr_toStringPretty ?_
    rintro _ ⟨⟩
    exact ⟨nofun, Json.ordered_ofFields hscalar,
      Json.legible_ofFields hscalar (List.forall_mem_nil _)⟩
  refine ⟨oomKill id, ?_, rfl, rfl, rfl, rfl⟩
  simp only [serdeJson] at hread ⊢
  rw [hread]

def firstKill : Occurrence := oomKill "01HK153X003BMPJNJB6JHKXK8T"

def secondKill : Occurrence := oomKill "01HK153XZ83BMPJNJB6JHKXK8T"

/-- Both files are written before they are visited, the second one only after the first
scan has begun. -/
def writtenFirst : List WatchStep :=
  [.list, .create firstKill, .write (fileName firstKill), .create secondKill, .startScan,
    .write (fileName secondKill), .visit (fileName firstKill), .visit (fileName secondKill),
    .endScan, .startScan, .visit (fileName secondKill), .visit (fileName firstKill), .endScan]

/-- A scan comes between the creation of the file and its content. -/
def scannedBetween : List WatchStep :=
  [.list, .create firstKill, .startScan, .visit (fileName firstKill), .endScan,
    .write (fileName firstKill), .startScan, .visit (fileName firstKill), .endScan]

theorem readable_of_mem {schedule : List WatchStep}
    (h : ∀ a ∈ schedule, ∀ occurrence, a = .create occurrence → ∃ id, occurrence = oomKill id) :
    ∀ occurrence, WatchStep.create occurrence ∈ schedule → Readable serdeJson occurrence := by
  intro occurrence hmem
  obtain ⟨id, rfl⟩ := h _ hmem occurrence rfl
  exact readable_oomKill id

theorem printedOnce_writtenFirst :
    (watchMachine serdeJson ["container"]).Always (PrintedOnce ["container"]) Watch.new
        writtenFirst ∧
      ∃ s ∈ (watchMachine serdeJson ["container"]).exec Watch.new writtenFirst,
        s.timesPrinted firstKill.id = 1 ∧ s.timesPrinted secondKill.id = 1 := by
  have halways := @printedOnce_always serdeJson ["container"] writtenFirst
    (readable_of_mem (by simp [writtenFirst, firstKill, secondKill])) (by decide +kernel)
  have hends : ∃ s ∈ (watchMachine serdeJson ["container"]).exec Watch.new writtenFirst,
      s.files = [⟨secondKill, true⟩, ⟨firstKill, true⟩] ∧ s.listed = [] ∧
        s.scanned = [fileName secondKill, fileName firstKill] := by
    refine ⟨_, rfl, rfl, rfl, rfl⟩
  obtain ⟨s, hrun, hfiles, hlisted, hscanned⟩ := hends
  have honce : ∀ kill ∈ [firstKill, secondKill], s.timesPrinted kill.id = 1 := by
    intro kill hmem
    have hcases : kill = firstKill ∨ kill = secondKill := by simpa using hmem
    refine (halways.of_exec hrun).once ⟨kill, true⟩ ?_ ?_ ?_ ?_ ?_
    · rcases hcases with rfl | rfl <;> simp [hfiles]
    · simp [hlisted]
    · rcases hcases with rfl | rfl <;> simp [hscanned, DirFile.name, fileName]
    · rcases hcases with rfl | rfl <;> decide +kernel
    · rcases hcases with rfl | rfl <;> decide +kernel
  exact ⟨halways, s, hrun, honce _ (by simp), honce _ (by simp)⟩

/-- The occurrence is complete before the second scan starts and is not printed by it. -/
theorem not_printedOnce_scannedBetween :
    ¬ ∀ (format : OccurrenceFormat) (filters : List String) (schedule : List WatchStep),
      (∀ occurrence, WatchStep.create occurrence ∈ schedule → Readable format occurrence) →
        (watchMachine format filters).Always (PrintedOnce filters) Watch.new schedule := by
  intro h
  have halways := h serdeJson [] scannedBetween (readable_of_mem
    (by simp [scannedBetween, firstKill]))
  have hends : ∃ s ∈ (watchMachine serdeJson []).exec Watch.new scannedBetween,
      (∃ file ∈ s.files, file.name ∉ s.listed ∧ file.name ∈ s.scanned ∧
        file.occurrence.validate = .ok () ∧ matchesFilter [] file.occurrence) ∧
      s.printed.length = 0 := by
    decide +kernel
  obtain ⟨s, hrun, ⟨file, hfile, hunlisted, hscanned, hvalid, hpasses⟩, hnone⟩ := hends
  have honce := (halways.of_exec hrun).once file hfile hunlisted hscanned hvalid hpasses
  have hle : s.timesPrinted file.occurrence.id ≤ s.printed.length := List.countP_le_length
  omega

end Tapio.Cli
