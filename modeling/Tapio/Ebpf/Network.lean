/-
# The network probe

The three handlers of the TCP tracepoints. `traceInetSockSetState` keeps a baseline
of each connection's round-trip time, from the first samples on, and reports a
sample that stands out from it; it also reports the state changes of interest.
The other two report every reset and every retransmission.

A reservation in the ring buffer may fail on its own each time, and the first
handler makes up to two. Words that are copied from address bytes are little-endian.
-/
import Tapio.Ebpf.Helpers

namespace Tapio.Ebpf

def ipprotoTcp : UInt16 := 6

/-- A TCP state as the tracepoints show it. -/
def tcpState (state : UInt16) : Int32 := state.toUInt32.toInt32

/-! ## Connections -/

/-- The key of a connection. IPv4 addresses are mapped into IPv6. -/
structure ConnKey where
  saddr : List.Vector UInt8 16
  daddr : List.Vector UInt8 16
  sport : UInt16
  dport : UInt16
  family : UInt8
  deriving DecidableEq

/-- `::ffff:a.b.c.d`. -/
def mappedV4 (addr : List.Vector UInt8 4) : List.Vector UInt8 16 :=
  ⟨List.replicate 10 0 ++ [0xff, 0xff] ++ addr.toList, by simp⟩

def fillConnKeyV4 (saddr daddr : List.Vector UInt8 4) (sport dport : UInt16) : ConnKey where
  saddr := mappedV4 saddr
  daddr := mappedV4 daddr
  sport := sport
  dport := dport
  family := afInet.toUInt8

def fillConnKeyV6 (saddr daddr : List.Vector UInt8 16) (sport dport : UInt16) :
    ConnKey where
  saddr := saddr
  daddr := daddr
  sport := sport
  dport := dport
  family := afInet6.toUInt8

/-- Four bytes in memory, read as a word. -/
def wordOfBytes (bytes : List.Vector UInt8 4) : UInt32 :=
  bytes.toList.foldr (fun byte word => (word <<< 8) ||| byte.toUInt32) 0

/-- The ends of a connection, as every tracepoint of the probe has them. -/
structure Endpoints where
  sport : UInt16
  dport : UInt16
  family : UInt16
  saddr : List.Vector UInt8 4
  daddr : List.Vector UInt8 4
  saddrV6 : List.Vector UInt8 16
  daddrV6 : List.Vector UInt8 16
  deriving DecidableEq

/-- The context of `inet_sock_set_state`, as far as the handler reads it. -/
structure TraceEventRawInetSockSetState extends Endpoints where
  oldstate : Int32
  newstate : Int32
  protocol : UInt16
  deriving DecidableEq

/-- The context of `tcp_receive_reset`. -/
abbrev TraceEventRawTcpReceiveReset := Endpoints

/-- What the fields of a TCP socket read as; `none` where the read fails. -/
structure TcpSock where
  totalRetrans : Option UInt32
  sndCwnd : Option UInt32
  deriving DecidableEq

/-- The context of `tcp_retransmit_skb`, with the socket `skaddr` points to. -/
structure TraceEventRawTcpRetransmitSkb extends Endpoints where
  skaddr : Option TcpSock
  deriving DecidableEq

/-- A read that fails leaves the zero it started from. -/
def readSndCwnd (sk : TcpSock) : UInt32 := sk.sndCwnd.getD 0

/-! ## Events -/

/-- An event with the fields that every handler fills alike, the others zero. -/
def networkEvent (inv : Invocation) (cfg : TapioConfig) (ends : Endpoints)
    (eventType : UInt8) (protocol : UInt8) : NetworkEvent where
  configGeneration := cfg.generation
  pid := (inv.pidTgid >>> 32).toUInt32
  srcIp := if ends.family = afInet then wordOfBytes ends.saddr else 0
  dstIp := if ends.family = afInet then wordOfBytes ends.daddr else 0
  srcIpv6 := if ends.family = afInet6 then ends.saddrV6 else List.Vector.replicate _ 0
  dstIpv6 := if ends.family = afInet6 then ends.daddrV6 else List.Vector.replicate _ 0
  srcPort := ends.sport
  dstPort := ends.dport
  family := ends.family
  protocol := protocol
  eventType := eventType
  oldState := 0
  newState := 0
  rttBaselineMs := 0
  rttCurrentMs := 0
  totalRetrans := 0
  sndCwnd := 0
  comm := inv.comm

/-- Clamp to sixteen bits. -/
def clampU16 (value : UInt32) : UInt16 := if value > 65535 then 65535 else value.toUInt16

/-! ## Round-trip times -/

def rttStateLearning : UInt8 := 1
def rttStateStable : UInt8 := 2

def uint8Max : UInt8 := 255
def staleThresholdNs : UInt64 := 3600000000000

structure RttBaseline where
  baselineUs : UInt32
  sampleCount : UInt8
  state : UInt8
  lastUpdateNs : UInt64
  lastActivityNs : UInt64
  deriving DecidableEq

/-- The maps of the network probe. -/
structure NetworkMaps where
  baselineRtt : HashMap ConnKey RttBaseline
  tapioMetrics : Metrics

def NetworkMaps.empty : NetworkMaps where
  baselineRtt := HashMap.empty
  tapioMetrics := fun _ => 0

/-- Submit an event if there is room for it, and count it as lost otherwise. -/
def submitNetwork (ringbufFree : Bool) (event : NetworkEvent) (maps : NetworkMaps) :
    NetworkMaps × Option NetworkEvent :=
  if ringbufFree then (maps, some event)
  else ({ maps with tapioMetrics := metricInc metricLostEvents maps.tapioMetrics }, none)

/-- The baseline of a connection seen for the first time. -/
def newBaseline (rttUs : UInt32) (nowNs : UInt64) : RttBaseline where
  baselineUs := rttUs
  sampleCount := 1
  state := rttStateLearning
  lastUpdateNs := nowNs
  lastActivityNs := nowNs

/-- The number of samples to learn from, as far as the counter reaches. -/
def learningSamples (cfg : TapioConfig) : UInt32 :=
  if cfg.rttMinBaselineSamples > uint8Max.toUInt32 then uint8Max.toUInt32
  else cfg.rttMinBaselineSamples

/-- Count one more sample, up to what the counter holds. -/
def countSample (sampleCount : UInt8) : UInt8 :=
  if sampleCount < uint8Max then sampleCount + 1 else sampleCount

/-- A learning baseline after one more sample. A baseline that turns out too high is
learned anew. -/
def learnBaseline (cfg : TapioConfig) (baseline : RttBaseline) (rttUs : UInt32) :
    RttBaseline :=
  let sampleCount := countSample baseline.sampleCount
  let baselineUs :=
    (baseline.baselineUs * (sampleCount.toUInt32 - 1) + rttUs) / sampleCount.toUInt32
  if learningSamples cfg > 0 ∧ sampleCount.toUInt32 ≥ learningSamples cfg then
    if baselineUs > 100000 then
      { baseline with sampleCount := 0, baselineUs := 0, state := rttStateLearning }
    else { baseline with sampleCount, baselineUs, state := rttStateStable }
  else { baseline with sampleCount, baselineUs }

/-- A stable baseline follows the samples once it is stale. -/
def refreshBaseline (nowNs : UInt64) (baseline : RttBaseline) (rttUs : UInt32) :
    RttBaseline :=
  if nowNs - baseline.lastUpdateNs > staleThresholdNs then
    { baseline with
      baselineUs := (baseline.baselineUs * 9 + rttUs) / 10
      lastUpdateNs := nowNs }
  else baseline

/-- A sample stands out by its ratio to the baseline or on its own. Zero thresholds
are inert. -/
def isRttSpike (cfg : TapioConfig) (baselineUs rttUs : UInt32) : Bool :=
  (cfg.rttSpikeMultiplier > 0 && rttUs > baselineUs * cfg.rttSpikeMultiplier) ||
    (cfg.rttSpikeAbsUs > 0 && rttUs > cfg.rttSpikeAbsUs)

def rttSpikeEvent (inv : Invocation) (cfg : TapioConfig)
    (args : TraceEventRawInetSockSetState) (baselineUs rttUs : UInt32) : NetworkEvent :=
  { networkEvent inv cfg args.toEndpoints netEventRttSpike args.protocol.toUInt8 with
    rttBaselineMs := clampU16 (baselineUs / 1000)
    rttCurrentMs := clampU16 (rttUs / 1000) }

/-- Follow the baseline of an established connection. -/
def trackRtt (inv : Invocation) (cfg : TapioConfig) (args : TraceEventRawInetSockSetState)
    (key : ConnKey) (rttUs : UInt32) (maps : NetworkMaps) :
    NetworkMaps × Option NetworkEvent :=
  match maps.baselineRtt key with
  | none =>
      match maps.baselineRtt.updateNoExist key (newBaseline rttUs inv.ktimeNs) with
      | some baselineRtt => ({ maps with baselineRtt }, none)
      | none => (maps, none)
  | some found =>
      let baseline := { found with lastActivityNs := inv.ktimeNs }
      if baseline.state = rttStateLearning then
        ({ maps with
            baselineRtt := maps.baselineRtt.modify key fun _ =>
              learnBaseline cfg baseline rttUs },
          none)
      else if baseline.state = rttStateStable then
        let baseline := refreshBaseline inv.ktimeNs baseline rttUs
        let maps := { maps with baselineRtt := maps.baselineRtt.modify key fun _ => baseline }
        if isRttSpike cfg baseline.baselineUs rttUs then
          submitNetwork inv.ringbufFree
            (rttSpikeEvent inv cfg args baseline.baselineUs rttUs) maps
        else (maps, none)
      else
        ({ maps with baselineRtt := maps.baselineRtt.modify key fun _ => baseline }, none)

/-! ## Handlers -/

/-- The key of the connection, for the families that have one. -/
def connKey (ends : Endpoints) : Option ConnKey :=
  if ends.family = afInet then
    some (fillConnKeyV4 ends.saddr ends.daddr ends.sport ends.dport)
  else if ends.family = afInet6 then
    some (fillConnKeyV6 ends.saddrV6 ends.daddrV6 ends.sport ends.dport)
  else none

/-- The part of the first handler up to `skip_rtt_tracking`. -/
def rttTracking (inv : Invocation) (cfg : TapioConfig)
    (args : TraceEventRawInetSockSetState) (srttUs : Option UInt32) (maps : NetworkMaps) :
    NetworkMaps × Option NetworkEvent :=
  match srttUs with
  | none => (maps, none)
  | some srttUs =>
      match connKey args.toEndpoints with
      | none => (maps, none)
      | some key =>
          if args.newstate = tcpState tcpEstablished ∧ srttUs >>> 3 > 0 then
            trackRtt inv cfg args key (srttUs >>> 3) maps
          else (maps, none)

/-- The state changes that are reported. -/
def isImportantTransition (args : TraceEventRawInetSockSetState) : Bool :=
  args.oldstate != args.newstate &&
    (args.newstate == tcpState tcpClose || args.oldstate == tcpState tcpSynSent ||
      args.oldstate == tcpState tcpSynRecv || args.newstate == tcpState tcpListen)

def stateChangeEvent (inv : Invocation) (cfg : TapioConfig)
    (args : TraceEventRawInetSockSetState) : NetworkEvent :=
  { networkEvent inv cfg args.toEndpoints netEventStateChange args.protocol.toUInt8 with
    oldState := args.oldstate.toUInt32.toUInt16
    newState := args.newstate.toUInt32.toUInt16 }

/-- Tracepoint `inet_sock_set_state`, with what the socket's smoothed round-trip time
reads as and whether there is room for a state change. -/
def traceInetSockSetState (inv : Invocation) (args : TraceEventRawInetSockSetState)
    (srttUs : Option UInt32) (stateRingbufFree : Bool) (maps : NetworkMaps) :
    NetworkMaps × List NetworkEvent :=
  match inv.enabledConfig tapioFNetwork with
  | none => (maps, [])
  | some cfg =>
      if args.protocol ≠ ipprotoTcp then (maps, [])
      else
        let tracked := rttTracking inv cfg args srttUs maps
        if isImportantTransition args then
          let changed := submitNetwork stateRingbufFree (stateChangeEvent inv cfg args) tracked.1
          (changed.1, tracked.2.toList ++ changed.2.toList)
        else (tracked.1, tracked.2.toList)

/-- Tracepoint `tcp_receive_reset`. -/
def traceTcpReceiveReset (inv : Invocation) (args : TraceEventRawTcpReceiveReset)
    (maps : NetworkMaps) : NetworkMaps × List NetworkEvent :=
  match inv.enabledConfig tapioFNetwork with
  | none => (maps, [])
  | some cfg =>
      let submitted := submitNetwork inv.ringbufFree
        (networkEvent inv cfg args netEventRstReceived ipprotoTcp.toUInt8) maps
      (submitted.1, submitted.2.toList)

def retransmitEvent (inv : Invocation) (cfg : TapioConfig)
    (args : TraceEventRawTcpRetransmitSkb) (totalRetrans sndCwnd : UInt32) : NetworkEvent :=
  { networkEvent inv cfg args.toEndpoints netEventRetransmit ipprotoTcp.toUInt8 with
    totalRetrans := clampU16 totalRetrans
    sndCwnd := clampU16 sndCwnd }

/-- Tracepoint `tcp_retransmit_skb`. A reservation is discarded if the socket cannot
be read. -/
def traceTcpRetransmitSkb (inv : Invocation) (args : TraceEventRawTcpRetransmitSkb)
    (maps : NetworkMaps) : NetworkMaps × List NetworkEvent :=
  match inv.enabledConfig tapioFNetwork with
  | none => (maps, [])
  | some cfg =>
      if inv.ringbufFree then
        match args.skaddr with
        | none => (maps, [retransmitEvent inv cfg args 0 0])
        | some sk =>
            match sk.totalRetrans with
            | none => (maps, [])
            | some totalRetrans =>
                (maps, [retransmitEvent inv cfg args totalRetrans (readSndCwnd sk)])
      else
        ({ maps with tapioMetrics := metricInc metricLostEvents maps.tapioMetrics }, [])

/-! ## What is submitted, and under which config -/

theorem eq_of_submitNetwork {ringbufFree : Bool} {event submitted : NetworkEvent}
    {maps : NetworkMaps}
    (h : submitted ∈ (submitNetwork ringbufFree event maps).2) : submitted = event := by
  cases ringbufFree with
  | false => cases h
  | true => exact (Option.some.inj h).symm

/-- All that is submitted while a baseline is followed is a spike. -/
theorem eq_of_trackRtt {inv : Invocation} {cfg : TapioConfig}
    {args : TraceEventRawInetSockSetState} {key : ConnKey} {rttUs : UInt32}
    {maps : NetworkMaps} {submitted : NetworkEvent}
    (h : submitted ∈ (trackRtt inv cfg args key rttUs maps).2) :
    ∃ baselineUs, submitted = rttSpikeEvent inv cfg args baselineUs rttUs := by
  simp only [trackRtt] at h
  split at h
  · split at h <;> cases h
  · split at h
    · cases h
    · split at h
      · split at h
        · exact ⟨_, eq_of_submitNetwork h⟩
        · cases h
      · cases h

theorem rttTracking_stamped {inv : Invocation} {cfg : TapioConfig}
    {args : TraceEventRawInetSockSetState} {srttUs : Option UInt32} {maps : NetworkMaps}
    {submitted : NetworkEvent} (h : submitted ∈ (rttTracking inv cfg args srttUs maps).2) :
    submitted.configGeneration = cfg.generation := by
  simp only [rttTracking] at h
  split at h
  · cases h
  · split at h
    · cases h
    · split at h
      · obtain ⟨baselineUs, rfl⟩ := eq_of_trackRtt h
        rfl
      · cases h

theorem traceInetSockSetState_disabled {inv : Invocation}
    (hoff : inv.enabledConfig tapioFNetwork = none) (args : TraceEventRawInetSockSetState)
    (srttUs : Option UInt32) (stateRingbufFree : Bool) (maps : NetworkMaps) :
    traceInetSockSetState inv args srttUs stateRingbufFree maps = (maps, []) := by
  rw [traceInetSockSetState, hoff]

theorem traceInetSockSetState_stamped {inv : Invocation} {cfg : TapioConfig}
    (hon : inv.enabledConfig tapioFNetwork = some cfg)
    {args : TraceEventRawInetSockSetState} {srttUs : Option UInt32}
    {stateRingbufFree : Bool} {maps : NetworkMaps} :
    ∀ event ∈ (traceInetSockSetState inv args srttUs stateRingbufFree maps).2,
      event.configGeneration = cfg.generation := by
  intro event hevent
  simp only [traceInetSockSetState, hon] at hevent
  split at hevent
  · cases hevent
  · split at hevent
    · rcases List.mem_append.mp hevent with hevent | hevent
      · exact rttTracking_stamped (Option.mem_toList.mp hevent)
      · rw [eq_of_submitNetwork (Option.mem_toList.mp hevent)]
        rfl
    · exact rttTracking_stamped (Option.mem_toList.mp hevent)

theorem traceTcpReceiveReset_disabled {inv : Invocation}
    (hoff : inv.enabledConfig tapioFNetwork = none) (args : TraceEventRawTcpReceiveReset)
    (maps : NetworkMaps) : traceTcpReceiveReset inv args maps = (maps, []) := by
  rw [traceTcpReceiveReset, hoff]

theorem traceTcpReceiveReset_stamped {inv : Invocation} {cfg : TapioConfig}
    (hon : inv.enabledConfig tapioFNetwork = some cfg)
    {args : TraceEventRawTcpReceiveReset} {maps : NetworkMaps} :
    ∀ event ∈ (traceTcpReceiveReset inv args maps).2,
      event.configGeneration = cfg.generation := by
  intro event hevent
  simp only [traceTcpReceiveReset, hon] at hevent
  rw [eq_of_submitNetwork (Option.mem_toList.mp hevent)]
  rfl

theorem traceTcpRetransmitSkb_disabled {inv : Invocation}
    (hoff : inv.enabledConfig tapioFNetwork = none) (args : TraceEventRawTcpRetransmitSkb)
    (maps : NetworkMaps) : traceTcpRetransmitSkb inv args maps = (maps, []) := by
  rw [traceTcpRetransmitSkb, hoff]

theorem traceTcpRetransmitSkb_stamped {inv : Invocation} {cfg : TapioConfig}
    (hon : inv.enabledConfig tapioFNetwork = some cfg)
    {args : TraceEventRawTcpRetransmitSkb} {maps : NetworkMaps} :
    ∀ event ∈ (traceTcpRetransmitSkb inv args maps).2,
      event.configGeneration = cfg.generation := by
  intro event hevent
  simp only [traceTcpRetransmitSkb, hon] at hevent
  split at hevent
  · split at hevent
    · obtain rfl := List.mem_singleton.mp hevent
      rfl
    · split at hevent
      · cases hevent
      · obtain rfl := List.mem_singleton.mp hevent
        rfl
  · cases hevent

end Tapio.Ebpf
