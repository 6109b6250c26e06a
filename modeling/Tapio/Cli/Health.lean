/-
# The two health reports

`tapio health` prints a summary of the last hour, and the tool `tapio_node_health` returns
one. Both group the recent occurrences by observer in a hash map. The tool sums up all
entries of the map. The command looks up four observers and sums up what it shows, so it
leaves out the occurrences of every other observer; and where it shows the time of the
latest occurrence it cuts a text at a byte, which may be inside a character.
-/
import Mathlib.Data.String.Basic
import Tapio.Cli.Watch
import Tapio.Grouping.Entries

namespace Tapio.Cli

open Common Grouping

/-! ## The data directory -/

inductive DirEntry
  | unreadable (error : String)
  | file (name : String) (data : Except String String)

/-- What is in the data directory, if it exists. -/
abbrev DataDir := Option (List DirEntry)

/-- The occurrence in an entry, if it is accepted. -/
def DirEntry.occurrence (format : OccurrenceFormat) : DirEntry → Option Occurrence
  | .unreadable _ => none
  | .file name data =>
      if extension name = some "json" then (readOccurrenceFile format data).toOption else none

def loadOccurrences (format : OccurrenceFormat) : DataDir → List Occurrence
  | none => []
  | some entries => entries.filterMap (DirEntry.occurrence format)

def category (occurrence : Occurrence) : String := observerCategory occurrence.occurrenceType

/-- The occurrences of the last hour, by the text of their time. -/
def recentOccurrences (format : OccurrenceFormat) (dir : DataDir) (oneHourAgo : String) :
    List Occurrence :=
  (loadOccurrences format dir).filter fun occurrence => oneHourAgo ≤ occurrence.timestamp

def healthStatus (totalCount totalCritical : ℕ) : String :=
  if 3 ≤ totalCritical ∨ 20 ≤ totalCount then "critical"
  else if 0 < totalCount then "degraded"
  else "healthy"

/-- The first 19 bytes; `none` if a character is cut, which panics. -/
def formatTimestamp (ts : String) : Option String :=
  if 19 ≤ ts.utf8ByteSize then (Text.takeBytes 19 ts.toList).map String.ofList else some ts

/-! ## The command -/

structure ObserverStats where
  count : ℕ
  criticalCount : ℕ
  lastSeen : String
  typeCounts : List (String × ℕ)

def ObserverStats.new : ObserverStats := ⟨0, 0, "", []⟩

def ObserverStats.add (stats : ObserverStats) (occurrence : Occurrence) : ObserverStats where
  count := stats.count + 1
  criticalCount :=
    if occurrence.severity = .critical then stats.criticalCount + 1 else stats.criticalCount
  lastSeen :=
    if stats.lastSeen < occurrence.timestamp then occurrence.timestamp else stats.lastSeen
  typeCounts := upsert occurrence.occurrenceType 0 (· + 1) stats.typeCounts

def observerCategories : List String := ["network", "container", "storage", "node"]

/-- The last of the entries with the greatest count. -/
def maxByCount (entries : List (String × ℕ)) : Option (String × ℕ) :=
  entries.foldl
    (fun best entry =>
      match best with
      | none => some entry
      | some other => if other.2 ≤ entry.2 then some entry else some other)
    none

def mostFrequent (order : HashOrder) (typeCounts : List (String × ℕ)) : String :=
  match maxByCount (order.visit typeCounts) with
  | none => ""
  | some (occurrenceType, count) => occurrenceType ++ " (" ++ toString count ++ ")"

structure SummaryRow where
  observer : String
  anomalies : ℕ
  critical : ℕ
  lastSeen : String
  mostFrequent : String

structure HealthSummary where
  rows : List SummaryRow
  overall : String
  totalCount : ℕ
  totalCritical : ℕ

/-- What is printed about one observer. -/
structure ObserverReport where
  anomalies : ℕ
  critical : ℕ
  lastSeen : String
  types : List (String × ℕ)

inductive HealthReport
  | observer (filter : String) (report : Option ObserverReport)
  | summary (summary : HealthSummary)

def summaryRow (order : HashOrder) (stats : List (String × ObserverStats)) (observer : String) :
    Option SummaryRow :=
  match stats.lookup observer with
  | none => some ⟨observer, 0, 0, "-", "-"⟩
  | some entry =>
      (formatTimestamp entry.lastSeen).map fun last =>
        ⟨observer, entry.count, entry.criticalCount, last, mostFrequent order entry.typeCounts⟩

def HealthSummary.ofRows (rows : List SummaryRow) : HealthSummary :=
  let totalCount := (rows.map SummaryRow.anomalies).sum
  let totalCritical := (rows.map SummaryRow.critical).sum
  ⟨rows, healthStatus totalCount totalCritical, totalCount, totalCritical⟩

def observerReport (order : HashOrder) (entry : ObserverStats) : Option ObserverReport :=
  (formatTimestamp entry.lastSeen).map fun last =>
    ⟨entry.count, entry.criticalCount, last,
      (order.visit entry.typeCounts).mergeSort fun a b => b.2 ≤ a.2⟩

def observerStats (recent : List Occurrence) : List (String × ObserverStats) :=
  group category ObserverStats.new ObserverStats.add recent

/-- What `tapio health` prints; `none` if it panics. -/
def cmdHealth (format : OccurrenceFormat) (order : HashOrder) (dir : DataDir)
    (oneHourAgo : String) (observerFilter : Option String) : Option HealthReport :=
  let stats := observerStats (recentOccurrences format dir oneHourAgo)
  match observerFilter with
  | some filter =>
      match stats.lookup filter with
      | none => some (.observer filter none)
      | some entry => (observerReport order entry).map fun report => .observer filter (some report)
  | none =>
      (observerCategories.mapM (summaryRow order stats)).map fun rows =>
        .summary (HealthSummary.ofRows rows)

/-! ## The tool -/

structure NodeHealth where
  status : String
  totalAnomalies1h : ℕ
  totalCritical1h : ℕ
  observers : List (String × ℕ × ℕ)

def addToTotals (totals : ℕ × ℕ) (occurrence : Occurrence) : ℕ × ℕ :=
  (totals.1 + 1, if occurrence.severity = .critical then totals.2 + 1 else totals.2)

/-- The result of `tapio_node_health`. -/
def nodeHealth (format : OccurrenceFormat) (order : HashOrder) (dir : DataDir)
    (oneHourAgo : String) : NodeHealth :=
  let byObserver := group category (0, 0) addToTotals (recentOccurrences format dir oneHourAgo)
  let total := ((order.visit byObserver).map fun entry => entry.2.1).sum
  let totalCritical := ((order.visit byObserver).map fun entry => entry.2.2).sum
  ⟨healthStatus total totalCritical, total, totalCritical, order.visit byObserver⟩

/-! ## What both count -/

/-- One for a critical occurrence. -/
def criticalAmount (occurrence : Occurrence) : ℕ := if occurrence.severity = .critical then 1 else 0

theorem count_add (stats : ObserverStats) (occurrence : Occurrence) :
    (stats.add occurrence).count = stats.count + 1 :=
  rfl

theorem criticalCount_add (stats : ObserverStats) (occurrence : Occurrence) :
    (stats.add occurrence).criticalCount = stats.criticalCount + criticalAmount occurrence := by
  rw [ObserverStats.add, criticalAmount]
  split <;> rfl

theorem addToTotals_count (totals : ℕ × ℕ) (occurrence : Occurrence) :
    (addToTotals totals occurrence).1 = totals.1 + 1 :=
  rfl

theorem addToTotals_critical (totals : ℕ × ℕ) (occurrence : Occurrence) :
    (addToTotals totals occurrence).2 = totals.2 + criticalAmount occurrence := by
  rw [addToTotals, criticalAmount]
  split <;> rfl

/-- The tool counts every recent occurrence. -/
theorem nodeHealth_totals (format : OccurrenceFormat) (order : HashOrder) (dir : DataDir)
    (oneHourAgo : String) :
    (nodeHealth format order dir oneHourAgo).totalAnomalies1h =
        ((recentOccurrences format dir oneHourAgo).map fun _ => 1).sum ∧
      (nodeHealth format order dir oneHourAgo).totalCritical1h =
        ((recentOccurrences format dir oneHourAgo).map criticalAmount).sum := by
  have hinit : Prod.fst ((0, 0) : ℕ × ℕ) = 0 ∧ Prod.snd ((0, 0) : ℕ × ℕ) = 0 := ⟨rfl, rfl⟩
  have hcount := sum_group hinit.1 category addToTotals_count
    (recentOccurrences format dir oneHourAgo)
  have hcritical := sum_group hinit.2 category addToTotals_critical
    (recentOccurrences format dir oneHourAgo)
  rw [nodeHealth]
  dsimp only
  rw [order.sum_visit Prod.fst, order.sum_visit Prod.snd, hcount, hcritical]
  exact ⟨rfl, rfl⟩

/-! ## What the command shows -/

theorem mapM_eq_some_iff {α β : Type} {f : α → Option β} {xs : List α} {ys : List β} :
    xs.mapM f = some ys ↔ xs.map f = ys.map some := by
  induction xs generalizing ys with
  | nil => cases ys <;> simp
  | cons x rest ih =>
      rw [List.mapM_cons]
      cases hx : f x with
      | none => cases ys <;> simp [hx]
      | some y =>
          cases ys with
          | nil =>
              cases rest.mapM f <;> simp
          | cons y' ys =>
              cases hrest : rest.mapM f <;> simp [hrest, hx, ← ih]

/-- The latest time so far is one of those seen, and no earlier than any. -/
theorem lastSeen_foldl (xs : List Occurrence) (stats : ObserverStats) :
    stats.lastSeen ≤ (xs.foldl ObserverStats.add stats).lastSeen ∧
      (∀ occurrence ∈ xs,
        occurrence.timestamp ≤ (xs.foldl ObserverStats.add stats).lastSeen) ∧
      ((xs.foldl ObserverStats.add stats).lastSeen = stats.lastSeen ∨
        ∃ occurrence ∈ xs,
          (xs.foldl ObserverStats.add stats).lastSeen = occurrence.timestamp) := by
  induction xs generalizing stats with
  | nil => exact ⟨le_refl _, nofun, .inl rfl⟩
  | cons occurrence rest ih =>
      obtain ⟨hstart, hall, hone⟩ := ih (stats.add occurrence)
      have hstep : stats.lastSeen ≤ (stats.add occurrence).lastSeen ∧
          occurrence.timestamp ≤ (stats.add occurrence).lastSeen := by
        rw [ObserverStats.add]
        dsimp only
        split
        · next hlt => exact ⟨le_of_lt hlt, le_refl _⟩
        · next hle => exact ⟨le_refl _, not_lt.mp hle⟩
      rw [List.foldl_cons]
      refine ⟨hstep.1.trans hstart,
        List.forall_mem_cons.mpr ⟨hstep.2.trans hstart, hall⟩, ?_⟩
      rcases hone with hkept | ⟨later, hlater, heq⟩
      · by_cases hlt : stats.lastSeen < occurrence.timestamp
        · refine .inr ⟨occurrence, List.mem_cons_self, ?_⟩
          rw [hkept, ObserverStats.add, if_pos hlt]
        · refine .inl ?_
          rw [hkept, ObserverStats.add, if_neg hlt]
      · exact .inr ⟨later, List.mem_cons_of_mem _ hlater, heq⟩

/-- Of some occurrences, the latest is the last seen. -/
theorem exists_lastSeen {xs : List Occurrence} (h : xs ≠ []) :
    ∃ latest ∈ xs, (xs.foldl ObserverStats.add ObserverStats.new).lastSeen = latest.timestamp ∧
      ∀ occurrence ∈ xs, occurrence.timestamp ≤ latest.timestamp := by
  obtain ⟨-, hall, hone⟩ := lastSeen_foldl xs ObserverStats.new
  rcases hone with hempty | ⟨latest, hlatest, heq⟩
  · obtain ⟨first, hfirst⟩ := List.exists_mem_of_ne_nil xs h
    have hle : "" ≤ first.timestamp := by
      refine not_lt.mp fun hlt => ?_
      rw [String.lt_iff_toList_lt] at hlt
      exact List.not_lt_nil _ hlt
    rw [hempty] at hall
    have heq : first.timestamp = "" := le_antisymm (hall first hfirst) hle
    refine ⟨first, hfirst, hempty.trans heq.symm, fun occurrence ho => ?_⟩
    rw [heq]
    exact hall occurrence ho
  · exact ⟨latest, hlatest, heq, fun occurrence ho => heq ▸ hall occurrence ho⟩

section Rows

variable (order : HashOrder) (recent : List Occurrence) (observer : String)

/-- A row shows the totals of its observer. -/
theorem summaryRow_totals {row : SummaryRow}
    (h : summaryRow order (observerStats recent) observer = some row) :
    row.anomalies = ((recent.filter (category · = observer)).map fun _ => 1).sum ∧
      row.critical = ((recent.filter (category · = observer)).map criticalAmount).sum := by
  have hinit : ObserverStats.count ObserverStats.new = 0 ∧
      ObserverStats.criticalCount ObserverStats.new = 0 := ⟨rfl, rfl⟩
  rw [← measure_lookup hinit.1 category count_add recent observer,
    ← measure_lookup hinit.2 category criticalCount_add recent observer]
  rw [summaryRow] at h
  rw [observerStats] at h
  split at h
  · next hnone =>
      cases h
      rw [hnone]
      exact ⟨rfl, rfl⟩
  · next entry hentry =>
      obtain ⟨last, -, rfl⟩ := Option.map_eq_some_iff.mp h
      rw [hentry]
      exact ⟨rfl, rfl⟩

/-- An observer's row is shown unless the time of its latest occurrence is cut. -/
theorem summaryRow_isSome_iff :
    (summaryRow order (observerStats recent) observer).isSome ↔
      ∀ latest ∈ recent, category latest = observer →
        (∀ other ∈ recent, category other = observer → other.timestamp ≤ latest.timestamp) →
          (formatTimestamp latest.timestamp).isSome := by
  have hmem : ∀ {occurrence}, occurrence ∈ recent.filter (category · = observer) ↔
      occurrence ∈ recent ∧ category occurrence = observer := by
    intro occurrence
    rw [List.mem_filter, decide_eq_true_eq]
  rw [summaryRow, observerStats, lookup_group]
  by_cases hnone : recent.filter (category · = observer) = []
  · rw [if_pos hnone]
    apply Iff.intro
    · intro _ latest hlatest hcategory
      have hin := hmem.mpr ⟨hlatest, hcategory⟩
      rw [hnone] at hin
      cases hin
    · exact fun _ => rfl
  · rw [if_neg hnone]
    obtain ⟨seen, hseen, heq, hall⟩ := exists_lastSeen hnone
    obtain ⟨hrecent, hcategory⟩ := hmem.mp hseen
    dsimp only
    rw [Option.isSome_map, heq]
    apply Iff.intro
    · intro hshown latest hlatest hother hlast
      have hsame : latest.timestamp = seen.timestamp :=
        le_antisymm (hall latest (hmem.mpr ⟨hlatest, hother⟩)) (hlast seen hrecent hcategory)
      rwa [hsame]
    · exact fun hcut =>
        hcut seen hrecent hcategory fun other ho hc => hall other (hmem.mpr ⟨ho, hc⟩)

end Rows

/-- The summary shows a row for each of the four observers. -/
theorem cmdHealth_summary {format : OccurrenceFormat} {order : HashOrder} {dir : DataDir}
    {oneHourAgo : String} {summary : HealthSummary} :
    cmdHealth format order dir oneHourAgo none = some (.summary summary) ↔
      ∃ rows, observerCategories.map (summaryRow order
          (observerStats (recentOccurrences format dir oneHourAgo))) = rows.map some ∧
        summary = HealthSummary.ofRows rows := by
  rw [cmdHealth]
  simp only [Option.map_eq_some_iff, mapM_eq_some_iff, HealthReport.summary.injEq]
  exact exists_congr fun rows => and_congr_right fun _ => eq_comm

theorem rows_totals {order : HashOrder} {recent : List Occurrence} {observers : List String}
    {rows : List SummaryRow}
    (h : observers.map (summaryRow order (observerStats recent)) = rows.map some) :
    rows.map SummaryRow.anomalies = (observers.map fun observer =>
        ((recent.filter (category · = observer)).map fun _ => 1).sum) ∧
      rows.map SummaryRow.critical = (observers.map fun observer =>
        ((recent.filter (category · = observer)).map criticalAmount).sum) := by
  induction observers generalizing rows with
  | nil =>
      obtain rfl := List.map_eq_nil_iff.mp h.symm
      exact ⟨rfl, rfl⟩
  | cons observer rest ih =>
      cases rows with
      | nil => cases h
      | cons row rows =>
          rw [List.map_cons, List.map_cons, List.cons.injEq] at h
          obtain ⟨hanomalies, hcritical⟩ := summaryRow_totals order recent observer h.1
          obtain ⟨hanomaliesRest, hcriticalRest⟩ := ih h.2
          simp only [List.map_cons]
          rw [hanomalies, hcritical, hanomaliesRest, hcriticalRest]
          exact ⟨rfl, rfl⟩

/-- What the summary counts: the recent occurrences of the four observers. -/
theorem summary_totals {order : HashOrder} {recent : List Occurrence} {rows : List SummaryRow}
    (h : observerCategories.map (summaryRow order (observerStats recent)) = rows.map some) :
    (HealthSummary.ofRows rows).totalCount =
        ((recent.filter (category · ∈ observerCategories)).map fun _ => 1).sum ∧
      (HealthSummary.ofRows rows).totalCritical =
        ((recent.filter (category · ∈ observerCategories)).map criticalAmount).sum := by
  have hnodup : observerCategories.Nodup := by decide
  obtain ⟨hanomalies, hcritical⟩ := rows_totals h
  rw [← sum_filter_keys category _ hnodup, ← sum_filter_keys category _ hnodup, ← hanomalies,
    ← hcritical]
  exact ⟨rfl, rfl⟩

/-! ## When they agree -/

/-- The two reports at one instant, each of a hash map with its own order. -/
def HealthReportsAgree (format : OccurrenceFormat) (order order' : HashOrder) (dir : DataDir)
    (oneHourAgo : String) : Prop :=
  ∃ summary, cmdHealth format order dir oneHourAgo none = some (.summary summary) ∧
    summary.totalCount = (nodeHealth format order' dir oneHourAgo).totalAnomalies1h ∧
    summary.totalCritical = (nodeHealth format order' dir oneHourAgo).totalCritical1h ∧
    summary.overall = (nodeHealth format order' dir oneHourAgo).status

/-- Every recent occurrence is of one of the four observers, and the time of the latest of
each observer is not cut inside a character. -/
structure Shown (recent : List Occurrence) : Prop where
  known : ∀ occurrence ∈ recent, category occurrence ∈ observerCategories
  uncut : ∀ latest ∈ recent,
    (∀ other ∈ recent, category other = category latest → other.timestamp ≤ latest.timestamp) →
      (formatTimestamp latest.timestamp).isSome

theorem sum_ones {α : Type} (xs : List α) : (xs.map fun _ => 1).sum = xs.length := by
  rw [List.map_const', List.sum_replicate_nat, Nat.mul_one]

/-- **The reports agree exactly when everything recent is shown.** -/
theorem healthReportsAgree_iff (format : OccurrenceFormat) (order order' : HashOrder)
    (dir : DataDir) (oneHourAgo : String) :
    HealthReportsAgree format order order' dir oneHourAgo ↔
      Shown (recentOccurrences format dir oneHourAgo) := by
  obtain ⟨htotal, hcritical⟩ := nodeHealth_totals format order' dir oneHourAgo
  apply Iff.intro
  · rintro ⟨summary, hsummary, hcount, -, -⟩
    obtain ⟨rows, hrows, rfl⟩ := cmdHealth_summary.mp hsummary
    rw [(summary_totals hrows).1, htotal, sum_ones, sum_ones,
      List.length_filter_eq_length_iff] at hcount
    have hknown := fun occurrence ho => of_decide_eq_true (hcount occurrence ho)
    refine ⟨hknown, fun latest hlatest hlast => ?_⟩
    have hrow : (summaryRow order (observerStats (recentOccurrences format dir oneHourAgo))
        (category latest)).isSome := by
      have hmem := List.mem_map_of_mem (f := summaryRow order (observerStats
        (recentOccurrences format dir oneHourAgo))) (hknown latest hlatest)
      rw [hrows] at hmem
      obtain ⟨row, -, hrow⟩ := List.mem_map.mp hmem
      rw [← hrow]
      rfl
    exact (summaryRow_isSome_iff order _ _).mp hrow latest hlatest rfl hlast
  · intro hshown
    have hall : (recentOccurrences format dir oneHourAgo).filter
        (category · ∈ observerCategories) = recentOccurrences format dir oneHourAgo :=
      List.filter_eq_self.mpr fun occurrence ho => decide_eq_true (hshown.known occurrence ho)
    have hrow : ∀ observer, (summaryRow order
        (observerStats (recentOccurrences format dir oneHourAgo)) observer).isSome := by
      intro observer
      refine (summaryRow_isSome_iff order _ _).mpr fun latest hlatest hcategory hlast => ?_
      exact hshown.uncut latest hlatest fun other ho hc => hlast other ho (hc.trans hcategory)
    obtain ⟨rows, hrows⟩ : ∃ rows : List SummaryRow, observerCategories.map (summaryRow order
        (observerStats (recentOccurrences format dir oneHourAgo))) = rows.map some := by
      refine ⟨observerCategories.map fun observer => (summaryRow order (observerStats
        (recentOccurrences format dir oneHourAgo)) observer).get (hrow observer), ?_⟩
      rw [List.map_map]
      exact List.map_congr_left fun observer _ => (Option.some_get _).symm
    obtain ⟨hanomalies, hcriticals⟩ := summary_totals hrows
    rw [hall, ← htotal] at hanomalies
    rw [hall, ← hcritical] at hcriticals
    refine ⟨_, cmdHealth_summary.mpr ⟨rows, hrows, rfl⟩, hanomalies, hcriticals, ?_⟩
    have hstatus : ∀ rows, (HealthSummary.ofRows rows).overall =
        healthStatus (HealthSummary.ofRows rows).totalCount
          (HealthSummary.ofRows rows).totalCritical := fun _ => rfl
    rw [hstatus, hanomalies, hcriticals]
    rfl

/-! ## A GPU fault -/

/-- A fault that no built-in observer reports. -/
def gpuFault : Occurrence where
  id := "01"
  timestamp := "2026-07-01T12:00:00+00:00"
  source := "tapio"
  occurrenceType := "kernel.gpu.fault"
  severity := .critical
  outcome := .failure
  protocolVersion := "1.0"
  error := none
  data := none

def gpuFaultText : String :=
  "\x7b\"id\":\"01\",\"timestamp\":\"2026-07-01T12:00:00+00:00\",\"source\":\"tapio\"," ++
    "\"type\":\"kernel.gpu.fault\",\"severity\":\"critical\",\"outcome\":\"failure\"," ++
    "\"protocol_version\":\"1.0\"\x7d"

/-- A format that reads one text. -/
def readsOnly (text : String) (occurrence : Occurrence) : OccurrenceFormat where
  toVecPretty _ := text
  fromStr other := if other = text then .ok occurrence else .error "expected value"

theorem fromStr_readsOnly (text : String) (occurrence : Occurrence) :
    (readsOnly text occurrence).fromStr text = .ok occurrence :=
  if_pos rfl

def insertionOrder : HashOrder := ⟨fun entries => entries, fun _ => List.Perm.refl _⟩

/-- The tool reports a fault that the summary leaves out. -/
theorem not_healthReportsAgree_gpuFault :
    ¬ HealthReportsAgree (readsOnly gpuFaultText gpuFault) insertionOrder insertionOrder
      (some [.file "01.json" (.ok gpuFaultText)]) "2026-07-01T11:30:00+00:00" := by
  rintro ⟨summary, hsummary, hcount, -, -⟩
  have hextension : extension "01.json" = some "json" := by decide +kernel
  have hvalid : gpuFault.validate = .ok () := by decide +kernel
  have hread : readOccurrenceFile (readsOnly gpuFaultText gpuFault) (.ok gpuFaultText) =
      .ok gpuFault := by
    rw [readOccurrenceFile, fromStr_readsOnly]
    simp only [hvalid]
  have hentry : (DirEntry.file "01.json" (.ok gpuFaultText)).occurrence
      (readsOnly gpuFaultText gpuFault) = some gpuFault := by
    rw [DirEntry.occurrence, if_pos hextension, hread]
    rfl
  have hlate : "2026-07-01T11:30:00+00:00" ≤ gpuFault.timestamp := by decide +kernel
  have hrecent : recentOccurrences (readsOnly gpuFaultText gpuFault)
      (some [.file "01.json" (.ok gpuFaultText)]) "2026-07-01T11:30:00+00:00" = [gpuFault] := by
    rw [recentOccurrences, loadOccurrences, List.filterMap_cons_some hentry, List.filterMap_nil]
    simp only [List.filter_cons, hlate, decide_true, if_true, List.filter_nil]
  have hunknown : category gpuFault ∉ observerCategories := by decide +kernel
  obtain ⟨rows, hrows, rfl⟩ := cmdHealth_summary.mp hsummary
  rw [(summary_totals hrows).1, (nodeHealth_totals _ _ _ _).1, hrecent,
    List.filter_cons_of_neg (by simpa using hunknown)] at hcount
  cases hcount

end Tapio.Cli
