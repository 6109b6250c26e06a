/-
# Rendering what is accepted

What the four commands print of the occurrences in the data directory. A file is accepted
if it parses and validates, and neither looks at its timestamp, which may be any text. A
timestamp of 19 bytes or more is cut to 19, and where that is inside a character every
command that shows it panics. Nothing else in a file makes one panic.
-/
import Tapio.Cli.Cutoff
import Tapio.Cli.Since

namespace Tapio.Cli

open Common Grouping
open String (utf8Len)

/-! ## Lines -/

/-- Spaces after a text, up to a width. -/
def padRight (width : ℕ) (s : String) : String :=
  s ++ String.ofList (List.replicate (width - s.length) ' ')

def severityLabel : Sink.Severity → String
  | .debug => "DEBUG"
  | .info => "INFO"
  | .warning => "WARNING"
  | .error => "ERROR"
  | .critical => "CRITICAL"

/-- How one occurrence is written as JSON. -/
abbrev ToJson := Occurrence → Except String String

/-- What a command has printed, and whether it ended with an error. -/
structure Printed where
  lines : List String
  result : Except String Unit

/-- The lines of an occurrence; `none` if it panics. -/
def writeOccurrence (toJson : ToJson) (json : Bool) (occurrence : Occurrence) :
    Option (Except String (List String)) :=
  if json then some ((toJson occurrence).map fun text => [text])
  else
    (formatTimestamp occurrence.timestamp).map fun ts =>
      .ok ((ts ++ " " ++ padRight 8 (severityLabel occurrence.severity) ++ "  " ++
          occurrence.occurrenceType) ::
        (occurrence.error.map fun error => "  " ++ error.message).toList)

/-- Some occurrences, up to the first that cannot be written. -/
def writeOccurrences (toJson : ToJson) (json : Bool) : List Occurrence → Option Printed
  | [] => some ⟨[], .ok ()⟩
  | occurrence :: rest =>
      match writeOccurrence toJson json occurrence with
      | none => none
      | some (.error error) => some ⟨[], .error error⟩
      | some (.ok lines) =>
          (writeOccurrences toJson json rest).map fun later =>
            ⟨lines ++ later.lines, later.result⟩

/-! ## Commands -/

def noAnomalies : String := "no anomalies recorded"

/-- The row of an observer in the status. -/
def statusRow (entry : String × List Occurrence) : Option String :=
  let last := ((entry.2.map Occurrence.timestamp).max?).getD "-"
  (formatTimestamp last).map fun ts =>
    padRight 12 entry.1 ++ " " ++ padRight 5 (toString entry.2.length) ++ "  " ++ ts

/-- What `tapio status` prints; `none` if it panics. -/
def cmdStatus (format : OccurrenceFormat) (order : HashOrder) (dir : DataDir) :
    Option (List String) :=
  let occurrences := loadOccurrences format dir
  if occurrences = [] then some [noAnomalies]
  else
    let byObserver := group category [] (fun occs occurrence => occs ++ [occurrence]) occurrences
    let observers := (order.visit byObserver).mergeSort fun a b => a.1 ≤ b.1
    (observers.mapM statusRow).map fun rows =>
      "Observer     Count  Last Seen" :: "─────────    ─────  ─────────" ::
        (rows ++ ["─────────    ─────", "total        " ++ toString occurrences.length])

/-- The last twenty of some occurrences. -/
def writeRecent (toJson : ToJson) (json : Bool) (occurrences : List Occurrence) : Option Printed :=
  writeOccurrences toJson json
    ((occurrences.mergeSort fun a b => b.timestamp ≤ a.timestamp).take 20)

/-- What `tapio recent` prints. -/
def cmdRecent (format : OccurrenceFormat) (toJson : ToJson) (rfc3339 : Rfc3339) (dir : DataDir)
    (now : ℤ) (json : Bool) (since : Option String) : Option Printed :=
  let occurrences := loadOccurrences format dir
  if occurrences = [] then some ⟨[noAnomalies], .ok ()⟩
  else
    match since with
    | none => writeRecent toJson json occurrences
    | some since =>
        match recentCutoff now since with
        | none => none
        | some (.error error) => some ⟨[], .error error⟩
        | some (.ok cutoff) =>
            writeRecent toJson json
              (occurrences.filter fun occurrence => rfc3339 cutoff ≤ occurrence.timestamp)

/-- One scan of the watcher: the files that it has then seen, and the new occurrences. -/
def scanDir (format : OccurrenceFormat) (seen : List String) :
    List DirEntry → List String × List Occurrence
  | [] => (seen, [])
  | .unreadable _ :: rest => scanDir format seen rest
  | .file name data :: rest =>
      if name ∈ seen then scanDir format seen rest
      else
        let later := scanDir format (name :: seen) rest
        (later.1, ((DirEntry.file name data).occurrence format).toList ++ later.2)

/-- The scans of the watcher, each of what is in the directory then. A directory that does
not exist or cannot be listed is passed over. -/
def watchFrom (format : OccurrenceFormat) (toJson : ToJson) (json : Bool)
    (filters : List String) : List String → List DataDir → Option Printed
  | _, [] => some ⟨[], .ok ()⟩
  | seen, none :: rest => watchFrom format toJson json filters seen rest
  | seen, some entries :: rest =>
      let scan := scanDir format seen entries
      match writeOccurrences toJson json (output filters scan.2) with
      | none => none
      | some ⟨lines, .error error⟩ => some ⟨lines, .error error⟩
      | some ⟨lines, .ok ()⟩ =>
          (watchFrom format toJson json filters scan.1 rest).map fun later =>
            ⟨lines ++ later.lines, later.result⟩

/-- The names that are there when the watcher starts. -/
def existingNames : DataDir → Except String (List String)
  | none => .ok []
  | some entries =>
      entries.mapM fun
        | .unreadable error => .error error
        | .file name _ => .ok name

/-- What `tapio watch` prints until it is interrupted. -/
def cmdWatch (format : OccurrenceFormat) (toJson : ToJson) (json : Bool) (filters : List String)
    (first : DataDir) (listings : List DataDir) : Option Printed :=
  match existingNames first with
  | .error error => some ⟨[], .error error⟩
  | .ok seen => watchFrom format toJson json filters seen listings

/-! ## Timestamps -/

/-- The first 19 bytes of a text are characters, or there are fewer. -/
def Sliceable (ts : String) : Prop :=
  ts.utf8ByteSize < 19 ∨ ∃ front, front <+: ts.toList ∧ utf8Len front = 19

theorem formatTimestamp_isSome_iff {ts : String} :
    (formatTimestamp ts).isSome ↔ Sliceable ts := by
  rw [formatTimestamp, Sliceable]
  split_ifs with hlong
  · rw [Option.isSome_map, Option.isSome_iff_exists, or_iff_right (Nat.not_lt.mpr hlong)]
    exact exists_congr fun front => Text.takeBytes_eq_some_iff
  · exact iff_of_true rfl (Or.inl (Nat.not_le.mp hlong))

/-! ## What cannot panic -/

/-- The files of a directory cannot make a command panic, whatever it is called with. A
watcher may find them at any time, in any listings. -/
structure Harmless (format : OccurrenceFormat) (toJson : ToJson) (rfc3339 : Rfc3339)
    (entries : List DirEntry) : Prop where
  rendered : ∀ occurrence ∈ loadOccurrences format (some entries), ∀ json,
    writeOccurrence toJson json occurrence ≠ none
  status : ∀ order, cmdStatus format order (some entries) ≠ none
  recent : ∀ now json since, (∀ s ∈ since, recentCutoff now s ≠ none) →
    cmdRecent format toJson rfc3339 (some entries) now json since ≠ none
  health : ∀ order oneHourAgo observer,
    cmdHealth format order (some entries) oneHourAgo observer ≠ none
  watch : ∀ json filters first listings,
    (∀ listing ∈ listings, ∀ found ∈ listing, ∀ entry ∈ found, entry ∈ entries) →
      cmdWatch format toJson json filters first listings ≠ none

section Sliced

variable {format : OccurrenceFormat} {toJson : ToJson}

theorem writeOccurrence_ne_none {occurrence : Occurrence} (h : Sliceable occurrence.timestamp)
    (json : Bool) : writeOccurrence toJson json occurrence ≠ none := by
  have hsome := formatTimestamp_isSome_iff.mpr h
  rw [writeOccurrence]
  split_ifs
  · exact Option.some_ne_none _
  · rw [← Option.isSome_iff_ne_none, Option.isSome_map]
    exact hsome

theorem writeOccurrences_ne_none (json : Bool) {occurrences : List Occurrence}
    (h : ∀ occurrence ∈ occurrences, Sliceable occurrence.timestamp) :
    writeOccurrences toJson json occurrences ≠ none := by
  induction occurrences with
  | nil => exact Option.some_ne_none _
  | cons occurrence rest ih =>
      obtain ⟨hfirst, hrest⟩ := List.forall_mem_cons.mp h
      rw [writeOccurrences]
      split
      · next hnone => exact absurd hnone (writeOccurrence_ne_none hfirst json)
      · exact Option.some_ne_none _
      · rw [← Option.isSome_iff_ne_none, Option.isSome_map, Option.isSome_iff_ne_none]
        exact ih hrest

theorem mapM_ne_none {α β : Type} {f : α → Option β} {xs : List α}
    (h : ∀ x ∈ xs, (f x).isSome) : xs.mapM f ≠ none := by
  induction xs with
  | nil => exact Option.some_ne_none _
  | cons x rest ih =>
      obtain ⟨hfirst, hrest⟩ := List.forall_mem_cons.mp h
      obtain ⟨y, hy⟩ := Option.isSome_iff_exists.mp hfirst
      obtain ⟨ys, hys⟩ := Option.ne_none_iff_exists'.mp (ih hrest)
      rw [List.mapM_cons, hy, hys]
      exact Option.some_ne_none _

/-! ### The commands -/

theorem statusRow_isSome {entry : String × List Occurrence}
    (h : ∀ occurrence ∈ entry.2, Sliceable occurrence.timestamp) : (statusRow entry).isSome := by
  rw [statusRow, Option.isSome_map, formatTimestamp_isSome_iff]
  cases hmax : (entry.2.map Occurrence.timestamp).max? with
  | none => exact Or.inl (by decide)
  | some last =>
      obtain ⟨occurrence, hmem, rfl⟩ := List.mem_map.mp (List.max?_mem hmax)
      exact h occurrence hmem

theorem cmdStatus_ne_none {dir : DataDir} (order : HashOrder)
    (h : ∀ occurrence ∈ loadOccurrences format dir, Sliceable occurrence.timestamp) :
    cmdStatus format order dir ≠ none := by
  have hentries : ∀ entry ∈ group category [] (fun occs occurrence => occs ++ [occurrence])
      (loadOccurrences format dir), ∀ occurrence ∈ entry.2, Sliceable occurrence.timestamp := by
    let P (occs : List Occurrence) : Prop := ∀ occurrence ∈ occs, Sliceable occurrence.timestamp
    have hempty : P [] := List.forall_mem_nil _
    apply forall_mem_group category hempty
    intro x hx occs hoccs occurrence hmem
    rcases List.mem_append.mp hmem with hold | hnew
    · exact hoccs occurrence hold
    · exact List.mem_singleton.mp hnew ▸ h x hx
  rw [cmdStatus]
  split_ifs
  · exact Option.some_ne_none _
  · rw [← Option.isSome_iff_ne_none, Option.isSome_map, Option.isSome_iff_ne_none]
    refine mapM_ne_none fun entry hentry => statusRow_isSome (hentries entry ?_)
    exact (order.perm _).mem_iff.mp (List.mem_mergeSort.mp hentry)

theorem writeRecent_ne_none (json : Bool) {occurrences : List Occurrence}
    (h : ∀ occurrence ∈ occurrences, Sliceable occurrence.timestamp) :
    writeRecent toJson json occurrences ≠ none := by
  refine writeOccurrences_ne_none json fun occurrence hmem => h occurrence ?_
  exact List.mem_mergeSort.mp (List.mem_of_mem_take hmem)

theorem cmdRecent_ne_none {rfc3339 : Rfc3339} {dir : DataDir} {now : ℤ} (json : Bool)
    {since : Option String} (hsince : ∀ s ∈ since, recentCutoff now s ≠ none)
    (h : ∀ occurrence ∈ loadOccurrences format dir, Sliceable occurrence.timestamp) :
    cmdRecent format toJson rfc3339 dir now json since ≠ none := by
  unfold cmdRecent
  dsimp only
  split_ifs
  · exact Option.some_ne_none _
  · cases since with
    | none => exact writeRecent_ne_none json h
    | some since =>
        dsimp only
        split
        · next hnone => exact absurd hnone (hsince since rfl)
        · exact Option.some_ne_none _
        · exact writeRecent_ne_none json fun occurrence hmem =>
            h occurrence (List.mem_of_mem_filter hmem)

/-- What an observer saw last is the time of an occurrence. -/
theorem sliceable_lastSeen {recent : List Occurrence} {observer : String} {entry : ObserverStats}
    (h : ∀ occurrence ∈ recent, Sliceable occurrence.timestamp)
    (hentry : (observerStats recent).lookup observer = some entry) :
    Sliceable entry.lastSeen := by
  rw [observerStats, lookup_group] at hentry
  split at hentry
  · cases hentry
  · next hsome =>
      cases hentry
      obtain ⟨latest, hlatest, heq, -⟩ := exists_lastSeen hsome
      rw [heq]
      exact h latest (List.mem_of_mem_filter hlatest)

theorem cmdHealth_ne_none {dir : DataDir} (order : HashOrder) (oneHourAgo : String)
    (observer : Option String)
    (h : ∀ occurrence ∈ loadOccurrences format dir, Sliceable occurrence.timestamp) :
    cmdHealth format order dir oneHourAgo observer ≠ none := by
  have hrecent : ∀ occurrence ∈ recentOccurrences format dir oneHourAgo,
      Sliceable occurrence.timestamp :=
    fun occurrence hmem => h occurrence (List.mem_of_mem_filter hmem)
  unfold cmdHealth
  cases observer with
  | some filter =>
      dsimp only
      split
      · exact Option.some_ne_none _
      · next entry hentry =>
          have hsome := formatTimestamp_isSome_iff.mpr (sliceable_lastSeen hrecent hentry)
          rw [← Option.isSome_iff_ne_none, Option.isSome_map, observerReport, Option.isSome_map]
          exact hsome
  | none =>
      dsimp only
      rw [← Option.isSome_iff_ne_none, Option.isSome_map, Option.isSome_iff_ne_none]
      refine mapM_ne_none fun name _ => ?_
      rw [summaryRow]
      split
      · rfl
      · next entry hentry =>
          rw [Option.isSome_map]
          exact formatTimestamp_isSome_iff.mpr (sliceable_lastSeen hrecent hentry)

/-- A scan finds occurrences of the entries that it visits. -/
theorem mem_of_mem_scanDir {entries : List DirEntry} {seen : List String}
    {occurrence : Occurrence} (h : occurrence ∈ (scanDir format seen entries).2) :
    occurrence ∈ loadOccurrences format (some entries) := by
  rw [loadOccurrences, List.mem_filterMap]
  induction entries generalizing seen with
  | nil => exact absurd h List.not_mem_nil
  | cons entry rest ih =>
      have hlater : ∀ seen', occurrence ∈ (scanDir format seen' rest).2 →
          ∃ found ∈ entry :: rest, found.occurrence format = some occurrence := by
        intro seen' hmem
        obtain ⟨found, hfound, heq⟩ := ih hmem
        exact ⟨found, List.mem_cons_of_mem _ hfound, heq⟩
      cases entry with
      | unreadable error => exact hlater seen h
      | file name data =>
          rw [scanDir] at h
          split_ifs at h
          · exact hlater seen h
          · rcases List.mem_append.mp h with hfirst | hrest
            · exact ⟨_, List.mem_cons_self, Option.mem_toList.mp hfirst⟩
            · exact hlater _ hrest

theorem mem_of_mem_output {filters : List String} {newOccs : List Occurrence}
    {occurrence : Occurrence} (h : occurrence ∈ output filters newOccs) : occurrence ∈ newOccs :=
  List.mem_mergeSort.mp (List.mem_of_mem_filter h)

theorem cmdWatch_ne_none (json : Bool) (filters : List String) (first : DataDir)
    {listings : List DataDir}
    (h : ∀ listing ∈ listings, ∀ occurrence ∈ loadOccurrences format listing,
      Sliceable occurrence.timestamp) :
    cmdWatch format toJson json filters first listings ≠ none := by
  rw [cmdWatch]
  split
  · exact Option.some_ne_none _
  · next seen _ =>
      clear * - h
      induction listings generalizing seen with
      | nil => exact Option.some_ne_none _
      | cons listing rest ih =>
          obtain ⟨hfirst, hrest⟩ := List.forall_mem_cons.mp h
          cases listing with
          | none => exact ih hrest seen
          | some entries =>
              have hsliceable : ∀ occurrence ∈ output filters (scanDir format seen entries).2,
                  Sliceable occurrence.timestamp := fun occurrence hmem =>
                hfirst occurrence (mem_of_mem_scanDir (mem_of_mem_output hmem))
              have hwritten : writeOccurrences toJson json
                  (output filters (scanDir format seen entries).2) ≠ none :=
                writeOccurrences_ne_none json hsliceable
              rw [watchFrom]
              split
              · next hnone => exact absurd hnone hwritten
              · exact Option.some_ne_none _
              · rw [← Option.isSome_iff_ne_none, Option.isSome_map, Option.isSome_iff_ne_none]
                exact ih hrest _

end Sliced

/-- **When files are harmless.** The timestamp of every accepted occurrence must not be cut
inside a character. -/
theorem harmless_iff (format : OccurrenceFormat) (toJson : ToJson) (rfc3339 : Rfc3339)
    (entries : List DirEntry) :
    Harmless format toJson rfc3339 entries ↔
      ∀ occurrence ∈ loadOccurrences format (some entries), Sliceable occurrence.timestamp := by
  apply Iff.intro
  · intro h occurrence hmem
    have hwritten := h.rendered occurrence hmem false
    rw [writeOccurrence, if_neg Bool.false_ne_true, ← Option.isSome_iff_ne_none, Option.isSome_map,
      formatTimestamp_isSome_iff] at hwritten
    exact hwritten
  · intro h
    refine ⟨fun occurrence hmem => writeOccurrence_ne_none (h occurrence hmem),
      fun order => cmdStatus_ne_none order h,
      fun now json since hsince => cmdRecent_ne_none json hsince h,
      fun order oneHourAgo observer => cmdHealth_ne_none order oneHourAgo observer h,
      fun json filters first listings hdrawn => cmdWatch_ne_none json filters first ?_⟩
    intro listing hlisting occurrence hmem
    cases listing with
    | none => exact absurd hmem List.not_mem_nil
    | some found =>
        obtain ⟨entry, hentry, heq⟩ := List.mem_filterMap.mp hmem
        have hin := hdrawn _ hlisting found rfl entry hentry
        exact h occurrence (List.mem_filterMap.mpr ⟨entry, hin, heq⟩)

/-! ## Half a second -/

/-- An occurrence whose time has a half in it, as one character of two bytes. -/
def halfSecond : Occurrence :=
  { gpuFault with timestamp := "2026-07-01T12:00:0½" }

def halfSecondText : String :=
  "\x7b\"id\":\"01\",\"timestamp\":\"2026-07-01T12:00:0½\",\"source\":\"tapio\"," ++
    "\"type\":\"kernel.gpu.fault\",\"severity\":\"critical\",\"outcome\":\"failure\"," ++
    "\"protocol_version\":\"1.0\"\x7d"

def halfSecondEntries : List DirEntry := [.file "01.json" (.ok halfSecondText)]

theorem loadOccurrences_halfSecond :
    loadOccurrences (readsOnly halfSecondText halfSecond) (some halfSecondEntries) =
      [halfSecond] := by
  have hextension : extension "01.json" = some "json" := by decide +kernel
  have hvalid : halfSecond.validate = .ok () := by decide +kernel
  have hread : readOccurrenceFile (readsOnly halfSecondText halfSecond) (.ok halfSecondText) =
      .ok halfSecond := by
    rw [readOccurrenceFile, fromStr_readsOnly]
    simp only [hvalid]
  have hentry : (DirEntry.file "01.json" (.ok halfSecondText)).occurrence
      (readsOnly halfSecondText halfSecond) = some halfSecond := by
    rw [DirEntry.occurrence, if_pos hextension, hread]
    rfl
  rw [loadOccurrences, halfSecondEntries, List.filterMap_cons_some hentry, List.filterMap_nil]

/-- The file is accepted, and the status panics. -/
theorem not_harmless_halfSecond :
    ¬ Harmless (readsOnly halfSecondText halfSecond) (fun _ => .ok halfSecondText)
      (fun instant => toRfc3339 instant.toNat) halfSecondEntries := by
  intro h
  have hrow : statusRow (category halfSecond, [halfSecond]) = none := by decide +kernel
  apply h.status insertionOrder
  rw [cmdStatus, loadOccurrences_halfSecond, if_neg (List.cons_ne_nil _ _)]
  simp [group, groupFrom, upsert, insertionOrder, hrow]

end Tapio.Cli
