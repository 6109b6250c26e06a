/-
# The memory limit of a container event

The probe does not know the memory limit of a cgroup, so the observer looks it up
when it reports an event: through the cgroup file of the process to a limit file,
with a cache over the ids of cgroups. The files are a state of the environment that
may be another at each event, and which entries a full cache loses is a choice of
the environment as well.

A cached limit keeps what it was looked up through, so it can be compared with the
limit that the process of a later event had at that time.
-/
import Tapio.Agent.Container
import Tapio.Text.Rust
import Tapio.Transition.Machine

namespace Tapio.Agent.Container

open Sink Transition Json

/-! ## Limit files -/

/-- What reading each file gives, if it can be read. -/
abbrev FileSystem := String → Option String

def cgroupFile (pid : UInt32) : String := "/proc/" ++ toString pid ++ "/cgroup"

/-- No limit is the largest number. -/
def unlimited : UInt64 := 0xFFFFFFFFFFFFFFFF

def readLimitFile (files : FileSystem) (path : String) : Option UInt64 := do
  let content ← files path
  let trimmed := Text.trim content
  if trimmed = "max" then some unlimited
  else
    let val ← Text.parseU64 trimmed
    -- version 1 writes a very large number instead
    if val ≥ (1 : UInt64) <<< 62 then some unlimited else some val

/-- The parts of `splitn(3, ':')`, if there are three. -/
def lineParts (line : String) : Option (String × String × String) := do
  let (hierarchy, rest) ← Text.splitOnce line ':'
  let (controller, path) ← Text.splitOnce rest ':'
  return (hierarchy, controller, path)

def memoryMax (path : String) : String := "/sys/fs/cgroup" ++ path ++ "/memory.max"

def memoryLimitInBytes (path : String) : String :=
  "/sys/fs/cgroup/memory" ++ path ++ "/memory.limit_in_bytes"

/-- One line of a cgroup file, of version 2 or of the memory controller of version 1. -/
def resolveLine (files : FileSystem) (line : String) : Option UInt64 :=
  match lineParts line with
  | none => none
  | some (hierarchy, controller, path) =>
      (if hierarchy = "0" ∧ controller = "" ∧ path ≠ "" then
        readLimitFile files (memoryMax path)
      else none).or
      (if Text.contains controller "memory" ∧ path ≠ "" then
        readLimitFile files (memoryLimitInBytes path)
      else none)

def resolveViaProc (files : FileSystem) (pid : UInt32) : Option UInt64 := do
  let content ← files (cgroupFile pid)
  (Text.lines content).findSome? (resolveLine files)

/-! ## The limit of a process's own cgroup -/

/-- The line names a cgroup with this limit file. -/
inductive NamesLimitFile (line : String) : String → Prop
  | unified {path : String} :
      lineParts line = some ("0", "", path) → path ≠ "" → NamesLimitFile line (memoryMax path)
  | controller {hierarchy controller path : String} :
      lineParts line = some (hierarchy, controller, path) →
      Text.contains controller "memory" → path ≠ "" →
      NamesLimitFile line (memoryLimitInBytes path)

/-- The line names a cgroup whose limit can be read. -/
def NamesLimit (files : FileSystem) (line : String) (limit : UInt64) : Prop :=
  ∃ file, NamesLimitFile line file ∧ readLimitFile files file = some limit

/-- The limit of the cgroup that the process's cgroup file names: of its lines, the
first that names a limit. -/
def OwnLimit (files : FileSystem) (pid : UInt32) (limit : UInt64) : Prop :=
  ∃ content, files (cgroupFile pid) = some content ∧
    ∃ before line after, Text.lines content = before ++ line :: after ∧
      NamesLimit files line limit ∧ ∀ other ∈ before, ∀ limit, ¬ NamesLimit files other limit

theorem contains_memory_empty : Text.contains "" "memory" = false := by decide

theorem resolveLine_eq_some_iff (files : FileSystem) (line : String) (limit : UInt64) :
    resolveLine files line = some limit ↔ NamesLimit files line limit := by
  constructor
  · intro h
    rw [resolveLine] at h
    split at h
    · cases h
    · next hierarchy controller path hparts =>
        rcases Option.or_eq_some_iff.mp h with hunified | ⟨-, hmemory⟩
        · obtain ⟨⟨rfl, rfl, hpath⟩, hread⟩ := Option.ite_none_right_eq_some.mp hunified
          exact ⟨_, .unified hparts hpath, hread⟩
        · obtain ⟨⟨hcontains, hpath⟩, hread⟩ := Option.ite_none_right_eq_some.mp hmemory
          exact ⟨_, .controller hparts hcontains hpath, hread⟩
  · rintro ⟨file, hfile, hread⟩
    cases hfile with
    | unified hparts hpath => simp [resolveLine, hparts, hpath, hread, contains_memory_empty]
    | @controller hierarchy controller path hparts hcontains hpath =>
        -- a named controller is not the empty one of version 2
        have hne : controller ≠ "" := by
          rintro rfl
          rw [contains_memory_empty] at hcontains
          exact Bool.false_ne_true hcontains
        simp [resolveLine, hparts, hpath, hread, hcontains, hne]

theorem resolveLine_eq_none_iff (files : FileSystem) (line : String) :
    resolveLine files line = none ↔ ∀ limit, ¬ NamesLimit files line limit := by
  rw [Option.eq_none_iff_forall_ne_some]
  exact forall_congr' fun limit => not_congr (resolveLine_eq_some_iff files line limit)

/-- **The lookup finds the limit of the process's own cgroup**, and nothing else. -/
theorem resolveViaProc_eq_some_iff (files : FileSystem) (pid : UInt32) (limit : UInt64) :
    resolveViaProc files pid = some limit ↔ OwnLimit files pid limit := by
  rw [resolveViaProc, Option.bind_eq_bind, Option.bind_eq_some_iff]
  refine exists_congr fun content => and_congr_right fun _ => ?_
  rw [List.findSome?_eq_some_iff]
  refine exists_congr fun before => exists_congr fun line => exists_congr fun after => ?_
  rw [resolveLine_eq_some_iff]
  exact and_congr_right fun _ => and_congr_right fun _ => forall₂_congr fun other _ =>
    resolveLine_eq_none_iff files other

/-! ## The cache -/

/-- A cached limit, with the files and the process it was looked up through. -/
structure CachedLimit where
  cgroupId : UInt64
  limit : UInt64
  files : FileSystem
  via : UInt32
  lookedUp : limit = (resolveViaProc files via).getD 0

/-- `CGROUP_LIMIT_CACHE`. -/
structure LimitCache where
  entries : List CachedLimit
  nodup : (entries.map CachedLimit.cgroupId).Nodup

namespace LimitCache

def new : LimitCache := ⟨[], List.nodup_nil⟩

def get (cache : LimitCache) (cgroupId : UInt64) : Option CachedLimit :=
  cache.entries.find? (·.cgroupId = cgroupId)

def keys (cache : LimitCache) : List UInt64 := cache.entries.map CachedLimit.cgroupId

/-- Remove the keys. -/
def evict (cache : LimitCache) (keysToEvict : List UInt64) : LimitCache where
  entries := cache.entries.filter (·.cgroupId ∉ keysToEvict)
  nodup := cache.nodup.sublist (List.filter_sublist.map _)

/-- Insert an entry in the place of one that has its key. -/
def insert (cache : LimitCache) (entry : CachedLimit) : LimitCache where
  entries := entry :: cache.entries.filter (·.cgroupId ≠ entry.cgroupId)
  nodup := by
    refine List.nodup_cons.mpr ⟨fun hmem => ?_, cache.nodup.sublist (List.filter_sublist.map _)⟩
    obtain ⟨other, hother, hkey⟩ := List.mem_map.mp hmem
    exact of_decide_eq_true (List.mem_filter.mp hother).2 hkey

/-- The cache that an insertion finds: a full one has lost some of its keys. -/
def makeRoom (cache : LimitCache) (keysToEvict : List UInt64) : LimitCache :=
  if cache.entries.length > 10000 then cache.evict keysToEvict else cache

/-- A fifth of the keys of a full cache, in whatever order its map has them. -/
def Evictable (cache : LimitCache) (keysToEvict : List UInt64) : Prop :=
  cache.entries.length > 10000 →
    keysToEvict.Nodup ∧ keysToEvict.length = cache.entries.length / 5 ∧
      ∀ key ∈ keysToEvict, key ∈ cache.keys

instance (cache : LimitCache) (keysToEvict : List UInt64) :
    Decidable (cache.Evictable keysToEvict) :=
  inferInstanceAs (Decidable (_ → _ ∧ _ ∧ _))

end LimitCache

/-- The process whose lookup counts: `pid`, or the first process if that comes to nothing. -/
def lookedUpVia (files : FileSystem) (pid : UInt32) : UInt32 :=
  if (resolveViaProc files pid).isSome then pid else 1

theorem resolveViaProc_lookedUpVia (files : FileSystem) (pid : UInt32) :
    resolveViaProc files (lookedUpVia files pid) =
      (resolveViaProc files pid).or (resolveViaProc files 1) := by
  rw [lookedUpVia]
  split
  · next hsome => rw [Option.or_of_isSome hsome]
  · next hnone => rw [Option.not_isSome_iff_eq_none.mp hnone, Option.none_or]

/-- `resolve_via_proc(pid).or_else(|| resolve_via_proc(1)).unwrap_or(0)`, as it is cached. -/
def lookUp (files : FileSystem) (cgroupId : UInt64) (pid : UInt32) : CachedLimit where
  cgroupId := cgroupId
  limit := ((resolveViaProc files pid).or (resolveViaProc files 1)).getD 0
  files := files
  via := lookedUpVia files pid
  lookedUp := by rw [resolveViaProc_lookedUpVia]

def enrichMemoryLimit (cache : LimitCache) (files : FileSystem) (keysToEvict : List UInt64)
    (cgroupId : UInt64) (pid : UInt32) : Option UInt64 × LimitCache :=
  if cgroupId = 0 then (none, cache)
  else
    match cache.get cgroupId with
    | some cached => (some cached.limit, cache)
    | none =>
        let entry := lookUp files cgroupId pid
        (if entry.limit > 0 then some entry.limit else none,
          (cache.makeRoom keysToEvict).insert entry)

/-! ## Events -/

/-- An event that the observer takes from its ring buffer, with the files as they are,
the keys that a full cache would lose, and the id that an occurrence would get. -/
structure Handled where
  event : ContainerEvent
  files : FileSystem
  keysToEvict : List UInt64
  id : String

structure Observer where
  cache : LimitCache
  /-- What was handed to the sink, newest first. -/
  sent : List Common.Occurrence

namespace Observer

/-- The lookup of `build_occurrence`, which is made if the event has no limit. -/
def enriched (s : Observer) (a : Handled) : Option UInt64 × LimitCache :=
  if a.event.memoryLimit = 0 then
    enrichMemoryLimit s.cache a.files a.keysToEvict a.event.cgroupId a.event.pid
  else (none, s.cache)

/-- What is reported of an event, if anything is. -/
def reported (bootOffsetNs : UInt64) (s : Observer) (a : Handled) : Option Common.Occurrence :=
  (classify a.event).map fun anomaly =>
    buildOccurrence a.id a.event anomaly bootOffsetNs (s.enriched a).1

def handle (bootOffsetNs : UInt64) (s : Observer) (a : Handled) : Option Observer :=
  if s.cache.Evictable a.keysToEvict then
    match s.reported bootOffsetNs a with
    | none => some s
    | some occurrence => some ⟨(s.enriched a).2, occurrence :: s.sent⟩
  else none

end Observer

def observerMachine (bootOffsetNs : UInt64) : Machine Observer Handled where
  init := ⟨LimitCache.new, []⟩
  step := Observer.handle bootOffsetNs

/-! ## Which limit is reported -/

/-- The number is the limit of the process's own cgroup, or zero if there is none to be
read. -/
structure IsOwnLimit (files : FileSystem) (pid : UInt32) (reported : UInt64) : Prop where
  own : ∀ limit, OwnLimit files pid limit → reported = limit
  unread : (∀ limit, ¬ OwnLimit files pid limit) → reported = 0

theorem isOwnLimit_iff (files : FileSystem) (pid : UInt32) (reported : UInt64) :
    IsOwnLimit files pid reported ↔ reported = (resolveViaProc files pid).getD 0 := by
  have hown := resolveViaProc_eq_some_iff files pid
  constructor
  · intro h
    cases hlimit : resolveViaProc files pid with
    | none =>
        refine h.unread fun limit hread => ?_
        rw [(hown limit).mpr hread] at hlimit
        cases hlimit
    | some limit => exact h.own limit ((hown limit).mp hlimit)
  · rintro rfl
    refine ⟨fun limit hread => ?_, fun hnone => ?_⟩
    · rw [(hown limit).mpr hread, Option.getD_some]
    · have hunread : resolveViaProc files pid = none :=
        Option.eq_none_iff_forall_ne_some.mpr fun limit h => hnone limit ((hown limit).mp h)
      rw [hunread, Option.getD_none]

/-- The cgroups of two processes have the same limit, each as its files are. -/
def SameLimit (files : FileSystem) (pid : UInt32) (files' : FileSystem) (pid' : UInt32) : Prop :=
  ∃ limit, IsOwnLimit files pid limit ∧ IsOwnLimit files' pid' limit

/-- Nothing but zero can be read as the limit of the process's cgroup. -/
def NothingToRead (files : FileSystem) (pid : UInt32) : Prop :=
  ∀ limit, OwnLimit files pid limit → limit = 0

namespace Observer

/-- The files when the cgroup of the event was resolved: for an OOM kill as they are. -/
def resolvedAt (s : Observer) (a : Handled) : FileSystem :=
  if a.event.eventType = containerEventOom then a.files
  else
    match s.cache.get a.event.cgroupId with
    | some cached => cached.files
    | none => a.files

/-- An occurrence whose event has no limit says the limit of the process's own cgroup. -/
def ReportsOwnLimit (bootOffsetNs : UInt64) (s : Observer) (a : Handled) : Prop :=
  ∀ occurrence ∈ s.reported bootOffsetNs a, a.event.memoryLimit = 0 →
    ∃ limit, occurrence.data.bind (·.get "memory_limit_bytes") = some (.ofUInt64 limit) ∧
      IsOwnLimit (s.resolvedAt a) a.event.pid limit

/-- An event that is reported with a limit that is looked up is looked up through its own
process: not at all only if there is nothing to read, through the first process only if
that has no limit, and from the cache only if the process that the cached limit was
looked up through had the same limit. -/
def LookedUpThroughOwn (s : Observer) (a : Handled) : Prop :=
  (classify a.event).isSome → a.event.memoryLimit = 0 →
    if a.event.cgroupId = 0 then NothingToRead (s.resolvedAt a) a.event.pid
    else
      match s.cache.get a.event.cgroupId with
      | some cached => SameLimit cached.files cached.via (s.resolvedAt a) a.event.pid
      | none => (∃ limit, OwnLimit a.files a.event.pid limit) ∨ NothingToRead a.files 1

end Observer

theorem nothingToRead_iff (files : FileSystem) (pid : UInt32) :
    NothingToRead files pid ↔ (resolveViaProc files pid).getD 0 = 0 := by
  rw [NothingToRead]
  simp only [← resolveViaProc_eq_some_iff]
  cases resolveViaProc files pid <;> simp

theorem sameLimit_iff (files : FileSystem) (pid : UInt32) (files' : FileSystem)
    (pid' : UInt32) :
    SameLimit files pid files' pid' ↔
      (resolveViaProc files pid).getD 0 = (resolveViaProc files' pid').getD 0 := by
  simp only [SameLimit, isOwnLimit_iff, exists_eq_left]

theorem ofUInt64_inj {m n : UInt64} (h : Value.ofUInt64 m = Value.ofUInt64 n) : m = n := by
  simpa [Value.ofUInt64] using h

theorem buildOccurrence_memoryLimit (id : String) (event : ContainerEvent)
    (anomaly : ClassifiedAnomaly) (bootOffsetNs : UInt64) (enriched : Option UInt64) :
    (buildOccurrence id event anomaly bootOffsetNs enriched).data.bind
        (·.get "memory_limit_bytes") =
      some (.ofUInt64 (memoryLimit event enriched)) := by
  have hmem : ("memory_limit_bytes", Value.ofUInt64 (memoryLimit event enriched)) ∈
      data event enriched := by simp [data]
  rw [buildOccurrence, Common.Occurrence.withData, Option.bind_some, Value.get]
  exact lookup_data hmem

/-- Where a limit that is looked up comes from. -/
theorem Observer.enriched_getD {s : Observer} {a : Handled} (hlimit : a.event.memoryLimit = 0) :
    (s.enriched a).1.getD 0 =
      if a.event.cgroupId = 0 then 0
      else
        match s.cache.get a.event.cgroupId with
        | some cached => cached.limit
        | none => (lookUp a.files a.event.cgroupId a.event.pid).limit := by
  rw [Observer.enriched, if_pos hlimit, enrichMemoryLimit]
  split
  · rfl
  · cases s.cache.get a.event.cgroupId with
    | some cached => rfl
    | none =>
        by_cases hpos : (lookUp a.files a.event.cgroupId a.event.pid).limit > 0
        · simp [hpos]
        · have hzero : (lookUp a.files a.event.cgroupId a.event.pid).limit = 0 :=
            UInt64.le_antisymm (UInt64.not_lt.mp hpos) (UInt64.zero_le)
          simp [hzero]

/-- An uncached lookup finds the process's own limit, if the first process's does not take
its place. -/
theorem lookUp_limit_eq_iff (files : FileSystem) (cgroupId : UInt64) (pid : UInt32) :
    (lookUp files cgroupId pid).limit = (resolveViaProc files pid).getD 0 ↔
      (∃ limit, OwnLimit files pid limit) ∨ NothingToRead files 1 := by
  rw [nothingToRead_iff]
  simp only [← resolveViaProc_eq_some_iff, lookUp]
  cases resolveViaProc files pid <;> simp

namespace Observer

theorem reportsOwnLimit_iff_enriched {bootOffsetNs : UInt64} {s : Observer} {a : Handled}
    {anomaly : ClassifiedAnomaly} (hanomaly : classify a.event = some anomaly)
    (hlimit : a.event.memoryLimit = 0) :
    s.ReportsOwnLimit bootOffsetNs a ↔
      (s.enriched a).1.getD 0 = (resolveViaProc (s.resolvedAt a) a.event.pid).getD 0 := by
  have hdata := buildOccurrence_memoryLimit a.id a.event anomaly bootOffsetNs (s.enriched a).1
  rw [memoryLimit, if_pos hlimit] at hdata
  rw [ReportsOwnLimit, reported, hanomaly, Option.map_some, ← isOwnLimit_iff]
  constructor
  · intro h
    obtain ⟨limit, hreported, hown⟩ := h _ rfl hlimit
    rw [hdata, Option.some_inj] at hreported
    exact ofUInt64_inj hreported ▸ hown
  · rintro hown _ ⟨⟩ -
    exact ⟨_, hdata, hown⟩

theorem resolvedAt_of_uncached {s : Observer} {a : Handled}
    (hget : s.cache.get a.event.cgroupId = none) : s.resolvedAt a = a.files := by
  rw [resolvedAt, hget, ite_self]

/-- **One event is reported right exactly when it is looked up through its own process.** -/
theorem reportsOwnLimit_iff_lookedUp (bootOffsetNs : UInt64) (s : Observer) (a : Handled) :
    s.ReportsOwnLimit bootOffsetNs a ↔ s.LookedUpThroughOwn a := by
  rw [LookedUpThroughOwn]
  cases hanomaly : classify a.event with
  | none => simp [ReportsOwnLimit, reported, hanomaly]
  | some anomaly =>
      by_cases hlimit : a.event.memoryLimit = 0
      · rw [reportsOwnLimit_iff_enriched hanomaly hlimit, enriched_getD hlimit,
          forall_prop_of_true (Option.isSome_some (a := anomaly)), forall_prop_of_true hlimit]
        split
        · rw [nothingToRead_iff, eq_comm]
        · cases hget : s.cache.get a.event.cgroupId with
          | some cached =>
              refine Iff.trans ?_ (sameLimit_iff _ _ _ _).symm
              exact Eq.congr cached.lookedUp rfl
          | none =>
              rw [resolvedAt_of_uncached hget]
              exact lookUp_limit_eq_iff a.files a.event.cgroupId a.event.pid
      · exact iff_of_true (fun _ _ h => absurd h hlimit) (fun _ h => absurd h hlimit)

theorem exists_handle (bootOffsetNs : UInt64) {s : Observer} {a : Handled}
    (hevictable : s.cache.Evictable a.keysToEvict) : ∃ t, s.handle bootOffsetNs a = some t := by
  rw [handle, if_pos hevictable]
  cases s.reported bootOffsetNs a with
  | none => exact ⟨s, rfl⟩
  | some occurrence => exact ⟨_, rfl⟩

/-- An event without a cgroup id is not looked up, whatever there is to read. -/
theorem not_reportsOwnLimit_of_cgroupId_eq_zero {bootOffsetNs : UInt64} {s : Observer}
    {a : Handled} (hanomaly : (classify a.event).isSome) (hlimit : a.event.memoryLimit = 0)
    (hid : a.event.cgroupId = 0)
    (hread : (resolveViaProc (s.resolvedAt a) a.event.pid).getD 0 ≠ 0) :
    ¬ s.ReportsOwnLimit bootOffsetNs a := by
  intro hreports
  have hlooked := (reportsOwnLimit_iff_lookedUp bootOffsetNs s a).mp hreports hanomaly hlimit
  rw [if_pos hid, nothingToRead_iff] at hlooked
  exact hread hlooked

end Observer

/-- **Own limits only.** A run from any state of the cache reports only limits of own
cgroups exactly when each event is looked up through its own process. -/
theorem reportsOwnLimit_iff (bootOffsetNs : UInt64) (s : Observer) (schedule : List Handled) :
    (observerMachine bootOffsetNs).EachStep (Observer.ReportsOwnLimit bootOffsetNs) s schedule ↔
      (observerMachine bootOffsetNs).EachStep Observer.LookedUpThroughOwn s schedule := by
  apply Machine.eachStep_congr (J := fun _ => True)
  · exact fun _ _ => trivial
  · exact fun _ _ => Observer.reportsOwnLimit_iff_lookedUp bootOffsetNs _ _
  · trivial

/-- The files of a node where one process runs in a cgroup with a limit. -/
def limitedFiles : FileSystem := fun path =>
  if path = "/proc/4242/cgroup" then some "0::/kubepods/web\n"
  else if path = "/sys/fs/cgroup/kubepods/web/memory.max" then some "536870912\n"
  else none

/-- What the probe reports of an OOM kill; it has no cgroup id. -/
def oomKill : ContainerEvent where
  configGeneration := 1
  memoryLimit := 0
  memoryUsage := 536870912
  timestampNs := 1000000000
  cgroupId := 0
  eventType := containerEventOom
  pid := 4242
  tid := 0
  exitCode := 137
  signal := 9

/-- An OOM kill is reported without the limit that can be read for its victim. -/
theorem not_reportsOwnLimit_oomKill :
    ¬ ∀ (bootOffsetNs : UInt64) (s : Observer) (schedule : List Handled),
      (observerMachine bootOffsetNs).EachStep (Observer.ReportsOwnLimit bootOffsetNs) s
        schedule := by
  intro h
  have hlimit : resolveViaProc limitedFiles 4242 = some 536870912 := by decide +kernel
  obtain ⟨t, ht⟩ : ∃ t, Observer.handle 0 ⟨LimitCache.new, []⟩
      ⟨oomKill, limitedFiles, [], "01HZX"⟩ = some t :=
    Observer.exists_handle 0 fun hfull => absurd hfull (by decide)
  have hstep := h 0 ⟨LimitCache.new, []⟩ [⟨oomKill, limitedFiles, [], "01HZX"⟩] t ht
  refine Observer.not_reportsOwnLimit_of_cgroupId_eq_zero rfl rfl rfl ?_ hstep.1
  have hread : (resolveViaProc limitedFiles 4242).getD 0 ≠ 0 := by
    rw [hlimit]
    decide
  exact hread

end Tapio.Agent.Container
