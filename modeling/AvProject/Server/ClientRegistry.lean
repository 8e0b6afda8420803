import AvProject.Server.AppConfig

/-!
The clients that `UdpStreamingBackend` knows.  A client enters with its first keepalive,
stays while it keeps registering, and is pruned by whichever call comes across it after
the timeout.

The receiver report is only stored and printed, so its type is a parameter.
-/

namespace AvProject.Server

/-! ### The registry -/

structure SockaddrIn where
  sinPort : UInt16
  sinAddr : UInt32
  deriving DecidableEq, Repr, Inhabited

structure UdpClientEndpoint (ρ : Type) where
  address : SockaddrIn
  lastSeenNs : UInt64
  latestReport : ρ
  latestReportTimestampNs : UInt64
  hasReport : Bool
  deriving Repr

def sameEndpoint (lhs rhs : SockaddrIn) : Bool :=
  lhs.sinPort == rhs.sinPort && lhs.sinAddr == rhs.sinAddr

/-- The timeout, converted to `uint64_t` before it is scaled. -/
def clientTimeoutNs (cfg : TransportConfig) : ℕ :=
  (cfg.udpClientTimeoutMs % 2 ^ 64).toNat * 1000 * 1000 % 2 ^ 64

section

variable {ρ : Type}

def isStale (cfg : TransportConfig) (nowNs : UInt64) (client : UdpClientEndpoint ρ) : Bool :=
  decide (nowNs.toNat > client.lastSeenNs.toNat) &&
    decide (nowNs.toNat - client.lastSeenNs.toNat > clientTimeoutNs cfg)

def pruneStaleClients (cfg : TransportConfig) (nowNs : UInt64)
    (clients : List (UdpClientEndpoint ρ)) : List (UdpClientEndpoint ρ) :=
  clients.filter fun client => !isStale cfg nowNs client

def refreshed (client : UdpClientEndpoint ρ) (nowNs : UInt64) (report : Option ρ) :
    UdpClientEndpoint ρ :=
  let client := { client with lastSeenNs := nowNs }
  match report with
  | some report =>
      { client with
        latestReport := report
        latestReportTimestampNs := nowNs
        hasReport := true }
  | none => client

/-- Refresh the first client with this address; `none` where there is none. -/
def refreshClient (address : SockaddrIn) (nowNs : UInt64) (report : Option ρ) :
    List (UdpClientEndpoint ρ) → Option (List (UdpClientEndpoint ρ))
  | [] => none
  | client :: rest =>
      if sameEndpoint client.address address then some (refreshed client nowNs report :: rest)
      else (refreshClient address nowNs report rest).map (client :: ·)

variable [Inhabited ρ]

def newClient (address : SockaddrIn) (nowNs : UInt64) (report : Option ρ) :
    UdpClientEndpoint ρ :=
  let endpoint : UdpClientEndpoint ρ :=
    { address := address
      lastSeenNs := nowNs
      latestReport := default
      latestReportTimestampNs := 0
      hasReport := false }
  match report with
  | some report =>
      { endpoint with
        latestReport := report
        latestReportTimestampNs := nowNs
        hasReport := true }
  | none => endpoint

def registerClient (cfg : TransportConfig) (address : SockaddrIn) (nowNs : UInt64)
    (report : Option ρ) (clients : List (UdpClientEndpoint ρ)) : List (UdpClientEndpoint ρ) :=
  let clients := pruneStaleClients cfg nowNs clients
  match refreshClient address nowNs report clients with
  | some clients => clients
  | none => clients ++ [newClient address nowNs report]

def snapshotClients (cfg : TransportConfig) (nowNs : UInt64)
    (clients : List (UdpClientEndpoint ρ)) : List (UdpClientEndpoint ρ) × List SockaddrIn :=
  let clients := pruneStaleClients cfg nowNs clients
  (clients, clients.map (·.address))

/-! ### Runs -/

inductive RegistryOperation (ρ : Type)
  | registerClient (address : SockaddrIn) (nowNs : UInt64) (report : Option ρ)
  | pruneStaleClients (nowNs : UInt64)
  | snapshotClients (nowNs : UInt64)
  deriving Repr

def RegistryOperation.nowNs : RegistryOperation ρ → UInt64
  | .registerClient _ nowNs _ => nowNs
  | .pruneStaleClients nowNs => nowNs
  | .snapshotClients nowNs => nowNs

def runRegistryOperation (cfg : TransportConfig) (clients : List (UdpClientEndpoint ρ)) :
    RegistryOperation ρ → List (UdpClientEndpoint ρ)
  | .registerClient address nowNs report => registerClient cfg address nowNs report clients
  | .pruneStaleClients nowNs => pruneStaleClients cfg nowNs clients
  | .snapshotClients nowNs => (snapshotClients cfg nowNs clients).1

def runRegistry (cfg : TransportConfig) (ops : List (RegistryOperation ρ)) :
    List (UdpClientEndpoint ρ) :=
  ops.foldl (runRegistryOperation cfg) []

end

/-! ### The history of one endpoint -/

/-- A registration: its time, and the report it brought. -/
structure Visit (ρ : Type) where
  nowNs : UInt64
  report : Option ρ
  deriving Repr

section

variable {ρ : Type}

def RegistryOperation.visit? (address : SockaddrIn) : RegistryOperation ρ → Option (Visit ρ)
  | .registerClient other nowNs report => if other = address then some ⟨nowNs, report⟩ else none
  | .pruneStaleClients _ => none
  | .snapshotClients _ => none

/-- The registrations of an endpoint, the latest one first. -/
def visits (address : SockaddrIn) (ops : List (RegistryOperation ρ)) : List (Visit ρ) :=
  (ops.filterMap (·.visit? address)).reverse

/-- The registrations since the endpoint last entered: it enters when it registers for the
first time, or after a silence longer than the timeout. -/
def sinceEntry (timeoutNs : ℕ) : List (Visit ρ) → List (Visit ρ)
  | [] => []
  | visit :: older =>
      visit :: match older with
        | [] => []
        | previous :: _ =>
            if visit.nowNs.toNat - previous.nowNs.toNat ≤ timeoutNs then
              sinceEntry timeoutNs older
            else []

/-- The newest report among the registrations, with the time at which it came. -/
def newestReport (visits : List (Visit ρ)) : Option (ρ × UInt64) :=
  visits.findSome? fun visit => visit.report.map fun report => (report, visit.nowNs)

/-- The report that an entry of the registry holds. -/
def heldReport (client : UdpClientEndpoint ρ) : Option (ρ × UInt64) :=
  if client.hasReport then some (client.latestReport, client.latestReportTimestampNs) else none

end

/-! ### Each operation -/

section

variable {ρ : Type} {cfg : TransportConfig} {clients : List (UdpClientEndpoint ρ)}
  {address : SockaddrIn} {nowNs : UInt64} {report : Option ρ}

@[simp] theorem sameEndpoint_iff {lhs rhs : SockaddrIn} :
    sameEndpoint lhs rhs = true ↔ lhs = rhs := by
  cases lhs
  cases rhs
  simp [sameEndpoint]

theorem clientTimeoutNs_eq (hnonneg : 0 ≤ cfg.udpClientTimeoutMs)
    (hint : cfg.udpClientTimeoutMs < 2 ^ 31) :
    clientTimeoutNs cfg = cfg.udpClientTimeoutMs.toNat * 1000000 :=
  msToNs_eq hnonneg hint

theorem not_isStale {client : UdpClientEndpoint ρ} :
    (!isStale cfg nowNs client) = true ↔
      nowNs.toNat ≤ client.lastSeenNs.toNat + clientTimeoutNs cfg := by
  rw [isStale]
  simp only [Bool.not_eq_true', Bool.and_eq_false_iff, decide_eq_false_iff_not]
  omega

theorem mem_pruneStaleClients {client : UdpClientEndpoint ρ} :
    client ∈ pruneStaleClients cfg nowNs clients ↔
      client ∈ clients ∧ nowNs.toNat ≤ client.lastSeenNs.toNat + clientTimeoutNs cfg := by
  rw [pruneStaleClients, List.mem_filter, not_isStale]

@[simp] theorem address_refreshed (client : UdpClientEndpoint ρ) :
    (refreshed client nowNs report).address = client.address := by
  cases report <;> rfl

@[simp] theorem lastSeenNs_refreshed (client : UdpClientEndpoint ρ) :
    (refreshed client nowNs report).lastSeenNs = nowNs := by
  cases report <;> rfl

theorem refreshClient_eq_none (h : refreshClient address nowNs report clients = none) :
    address ∉ clients.map (·.address) := by
  induction clients with
  | nil => simp
  | cons client rest ih =>
      rw [refreshClient] at h
      split at h
      · simp at h
      · rename_i hother
        rw [sameEndpoint_iff] at hother
        rw [Option.map_eq_none_iff] at h
        rw [List.map_cons, List.mem_cons, not_or]
        exact ⟨Ne.symm hother, ih h⟩

/-- The client is refreshed where it stands. -/
theorem refreshClient_eq_some {next : List (UdpClientEndpoint ρ)}
    (h : refreshClient address nowNs report clients = some next) :
    ∃ before client after, clients = before ++ client :: after ∧ client.address = address ∧
      next = before ++ refreshed client nowNs report :: after := by
  induction clients generalizing next with
  | nil => simp [refreshClient] at h
  | cons client rest ih =>
      rw [refreshClient] at h
      split at h
      · rename_i hsame
        obtain rfl := Option.some.inj h
        exact ⟨[], client, rest, rfl, sameEndpoint_iff.mp hsame, rfl⟩
      · obtain ⟨tail, htail, rfl⟩ := Option.map_eq_some_iff.mp h
        obtain ⟨before, found, after, rfl, haddress, rfl⟩ := ih htail
        exact ⟨client :: before, found, after, rfl, haddress, rfl⟩

@[simp] theorem heldReport_refreshed_some (client : UdpClientEndpoint ρ) (newest : ρ) :
    heldReport (refreshed client nowNs (some newest)) = some (newest, nowNs) := rfl

@[simp] theorem heldReport_refreshed_none (client : UdpClientEndpoint ρ) :
    heldReport (refreshed client nowNs none) = heldReport client := rfl

theorem visits_append (ops : List (RegistryOperation ρ)) (op : RegistryOperation ρ) :
    visits address (ops ++ [op]) = (op.visit? address).toList ++ visits address ops := by
  rw [visits, List.filterMap_append, List.reverse_append, visits]
  congr 1
  cases hvisit : op.visit? address <;> simp [hvisit]

/-- Within the timeout a registration continues what the endpoint had before. -/
theorem sinceEntry_of_le {timeoutNs : ℕ} {visit previous : Visit ρ} {older : List (Visit ρ)}
    (h : visit.nowNs.toNat ≤ previous.nowNs.toNat + timeoutNs) :
    sinceEntry timeoutNs (visit :: previous :: older) =
      visit :: sinceEntry timeoutNs (previous :: older) := by
  conv_lhs => rw [sinceEntry]
  simp only [if_pos (show visit.nowNs.toNat - previous.nowNs.toNat ≤ timeoutNs by omega)]

/-- After a longer silence it starts anew. -/
theorem sinceEntry_of_lt {timeoutNs : ℕ} {visit : Visit ρ} {older : List (Visit ρ)}
    (h : ∀ previous ∈ older.head?,
      previous.nowNs.toNat + timeoutNs < visit.nowNs.toNat) :
    sinceEntry timeoutNs (visit :: older) = [visit] := by
  cases older with
  | nil => rfl
  | cons previous older =>
      have hlate := h previous rfl
      rw [sinceEntry]
      simp only [if_neg (show ¬ visit.nowNs.toNat - previous.nowNs.toNat ≤ timeoutNs by omega)]

theorem newestReport_cons (visit : Visit ρ) (older : List (Visit ρ)) :
    newestReport (visit :: older) =
      (visit.report.map fun report => (report, visit.nowNs)).or (newestReport older) := by
  rw [newestReport, List.findSome?_cons]
  cases visit.report <;> rfl

end

/-! ### The registry and the history -/

section

variable {ρ : Type} {cfg : TransportConfig} {ops : List (RegistryOperation ρ)}
  {clients : List (UdpClientEndpoint ρ)}

/-- What an entry knows about its endpoint. -/
def Describes (cfg : TransportConfig) (ops : List (RegistryOperation ρ))
    (client : UdpClientEndpoint ρ) : Prop :=
  ∃ latest older, visits client.address ops = latest :: older ∧
    client.lastSeenNs = latest.nowNs ∧
    heldReport client = newestReport (sinceEntry (clientTimeoutNs cfg) (latest :: older))

/-- The registry at a time `clockNs` that no operation lies behind. -/
structure RegistryInvariant (cfg : TransportConfig) (ops : List (RegistryOperation ρ))
    (clockNs : ℕ) (clients : List (UdpClientEndpoint ρ)) : Prop where
  nodup : (clients.map (·.address)).Nodup
  describes : ∀ client ∈ clients, Describes cfg ops client
  past : ∀ op ∈ ops, op.nowNs.toNat ≤ clockNs
  present : ∀ address, ∀ latest ∈ (visits address ops).head?,
    clockNs ≤ latest.nowNs.toNat + clientTimeoutNs cfg → address ∈ clients.map (·.address)

namespace RegistryInvariant

variable {clockNs : ℕ} {nowNs : UInt64}

/-- Pruning moves the clock on. -/
theorem prune (h : RegistryInvariant cfg ops clockNs clients) (hclock : clockNs ≤ nowNs.toNat) :
    RegistryInvariant cfg ops nowNs.toNat (pruneStaleClients cfg nowNs clients) where
  nodup := h.nodup.sublist (List.filter_sublist.map _)
  describes client hclient := h.describes client (mem_pruneStaleClients.mp hclient).1
  past op hop := (h.past op hop).trans hclock
  present address latest hlatest hrecent := by
    have hmem := h.present address latest hlatest (hclock.trans hrecent)
    obtain ⟨client, hclient, rfl⟩ := List.mem_map.mp hmem
    obtain ⟨visit, older, hvisits, hseen, -⟩ := h.describes client hclient
    rw [hvisits] at hlatest
    obtain rfl : visit = latest := Option.some.inj hlatest
    refine List.mem_map.mpr ⟨client, mem_pruneStaleClients.mpr ⟨hclient, ?_⟩, rfl⟩
    rw [hseen]
    exact hrecent

/-- A call that is no registration adds nothing to the history. -/
theorem observe (h : RegistryInvariant cfg ops nowNs.toNat clients) {op : RegistryOperation ρ}
    (hop : op.nowNs = nowNs) (hnone : ∀ address, op.visit? address = none) :
    RegistryInvariant cfg (ops ++ [op]) nowNs.toNat clients where
  nodup := h.nodup
  describes client hclient := by
    rw [Describes, visits_append, hnone]
    exact h.describes client hclient
  past other hother := by
    rcases List.mem_append.mp hother with hold | hnew
    · exact h.past other hold
    · obtain rfl := List.mem_singleton.mp hnew
      rw [hop]
  present address latest hlatest := by
    rw [visits_append, hnone] at hlatest
    exact h.present address latest hlatest

section

variable {address : SockaddrIn} {report : Option ρ}

theorem visits_register_self :
    visits address (ops ++ [.registerClient address nowNs report]) =
      ⟨nowNs, report⟩ :: visits address ops := by
  simp [visits_append, RegistryOperation.visit?]

theorem visits_register_other {other : SockaddrIn} (hother : other ≠ address) :
    visits other (ops ++ [.registerClient address nowNs report]) = visits other ops := by
  simp [visits_append, RegistryOperation.visit?, hother.symm]

theorem describes_register_other {client : UdpClientEndpoint ρ}
    (hother : client.address ≠ address) (h : Describes cfg ops client) :
    Describes cfg (ops ++ [.registerClient address nowNs report]) client := by
  rw [Describes, visits_register_other hother]
  exact h

/-- A refreshed entry that is not stale has one registration more since it entered. -/
theorem describes_refreshed {client : UdpClientEndpoint ρ} (h : Describes cfg ops client)
    (hfresh : nowNs.toNat ≤ client.lastSeenNs.toNat + clientTimeoutNs cfg) :
    Describes cfg (ops ++ [.registerClient client.address nowNs report])
      (refreshed client nowNs report) := by
  obtain ⟨latest, older, hvisits, hseen, hreport⟩ := h
  refine ⟨⟨nowNs, report⟩, latest :: older, ?_, by simp, ?_⟩
  · rw [address_refreshed, visits_register_self, hvisits]
  · rw [sinceEntry_of_le (by rw [← hseen]; exact hfresh), newestReport_cons, ← hreport]
    cases report <;> rfl

/-- A new entry has the registration it enters with. -/
theorem describes_newClient [Inhabited ρ]
    (hsilent : ∀ latest ∈ (visits address ops).head?,
      latest.nowNs.toNat + clientTimeoutNs cfg < nowNs.toNat) :
    Describes cfg (ops ++ [.registerClient address nowNs report])
      (newClient address nowNs report) := by
  have haddress : (newClient address nowNs report).address = address := by
    cases report <;> rfl
  refine ⟨⟨nowNs, report⟩, visits address ops, ?_, ?_, ?_⟩
  · rw [haddress, visits_register_self]
  · cases report <;> rfl
  · rw [sinceEntry_of_lt hsilent]
    cases report <;> rfl

/-- After a registration the registry holds who it held, and the endpoint. -/
theorem present_register (h : RegistryInvariant cfg ops nowNs.toNat clients)
    {next : List (UdpClientEndpoint ρ)} (hself : address ∈ next.map (·.address))
    (hother : ∀ other ∈ clients.map (·.address), other ∈ next.map (·.address)) :
    ∀ other, ∀ latest ∈ (visits other (ops ++ [.registerClient address nowNs report])).head?,
      nowNs.toNat ≤ latest.nowNs.toNat + clientTimeoutNs cfg →
        other ∈ next.map (·.address) := by
  intro other latest hlatest hrecent
  by_cases hsame : other = address
  · rw [hsame]
    exact hself
  · rw [visits_register_other hsame] at hlatest
    exact hother other (h.present other latest hlatest hrecent)

theorem past_register (h : RegistryInvariant cfg ops nowNs.toNat clients) :
    ∀ op ∈ ops ++ [.registerClient address nowNs report], op.nowNs.toNat ≤ nowNs.toNat := by
  refine List.forall_mem_append.mpr ⟨h.past, ?_⟩
  intro op hop
  obtain rfl := List.mem_singleton.mp hop
  exact le_rfl

/-- A registration, on a registry that has just been pruned. -/
theorem register [Inhabited ρ] (h : RegistryInvariant cfg ops nowNs.toNat clients)
    (hfresh : ∀ client ∈ clients,
      nowNs.toNat ≤ client.lastSeenNs.toNat + clientTimeoutNs cfg) :
    RegistryInvariant cfg (ops ++ [.registerClient address nowNs report]) nowNs.toNat
      (match refreshClient address nowNs report clients with
        | some clients => clients
        | none => clients ++ [newClient address nowNs report]) := by
  cases hrefresh : refreshClient address nowNs report clients with
  | none =>
      have habsent := refreshClient_eq_none hrefresh
      have haddress : (newClient address nowNs report).address = address := by
        cases report <;> rfl
      have hsilent : ∀ latest ∈ (visits address ops).head?,
          latest.nowNs.toNat + clientTimeoutNs cfg < nowNs.toNat := by
        intro latest hlatest
        by_contra hrecent
        exact habsent (h.present address latest hlatest (by omega))
      refine ⟨?_, ?_, h.past_register, h.present_register ?_ ?_⟩
      · rw [List.map_append, List.map_singleton, haddress]
        exact List.nodup_append.mpr ⟨h.nodup, List.nodup_singleton _, fun other hold new hnew =>
          fun heq => habsent (List.mem_singleton.mp hnew ▸ heq ▸ hold)⟩
      · refine List.forall_mem_append.mpr ⟨fun client hclient => ?_, ?_⟩
        · refine describes_register_other (fun heq => habsent ?_) (h.describes client hclient)
          exact heq ▸ List.mem_map_of_mem hclient
        · intro client hclient
          obtain rfl := List.mem_singleton.mp hclient
          exact describes_newClient hsilent
      · simp [haddress]
      · intro other hother
        rw [List.map_append]
        exact List.mem_append_left _ hother
  | some next =>
      obtain ⟨before, client, after, rfl, rfl, rfl⟩ := refreshClient_eq_some hrefresh
      have haddresses : (before ++ refreshed client nowNs report :: after).map (·.address) =
          (before ++ client :: after).map (·.address) := by simp
      have hnodup := h.nodup
      rw [List.map_append, List.map_cons] at hnodup
      refine ⟨?_, ?_, h.past_register, h.present_register ?_ ?_⟩
      · rw [haddresses]
        exact h.nodup
      · -- the other entries have another address, so their history stays as it is
        have hothers : ∀ other ∈ before ++ after, other.address ≠ client.address := by
          intro other hother heq
          rw [List.nodup_middle, List.nodup_cons, ← List.map_append] at hnodup
          exact hnodup.1 (heq ▸ List.mem_map_of_mem hother)
        intro other hother
        rw [List.mem_append, List.mem_cons] at hother
        rcases hother with hbefore | rfl | hafter
        · exact describes_register_other (hothers other (List.mem_append_left _ hbefore))
            (h.describes other (List.mem_append_left _ hbefore))
        · exact describes_refreshed (h.describes client (by simp)) (hfresh client (by simp))
        · exact describes_register_other (hothers other (List.mem_append_right _ hafter))
            (h.describes other (by simp [hafter]))
      · simp
      · intro other hother
        rw [haddresses]
        exact hother

end

end RegistryInvariant

theorem not_isStale_of_mem {nowNs : UInt64} :
    ∀ client ∈ pruneStaleClients cfg nowNs clients,
      nowNs.toNat ≤ client.lastSeenNs.toNat + clientTimeoutNs cfg :=
  fun _ hclient => (mem_pruneStaleClients.mp hclient).2

/-- One operation, at a time that is not behind the clock. -/
theorem RegistryInvariant.runRegistryOperation [Inhabited ρ] {clockNs : ℕ}
    (h : RegistryInvariant cfg ops clockNs clients) (op : RegistryOperation ρ)
    (hclock : clockNs ≤ op.nowNs.toNat) :
    RegistryInvariant cfg (ops ++ [op]) op.nowNs.toNat
      (Server.runRegistryOperation cfg clients op) := by
  cases op with
  | registerClient address nowNs report => exact (h.prune hclock).register not_isStale_of_mem
  | pruneStaleClients nowNs => exact (h.prune hclock).observe rfl fun _ => rfl
  | snapshotClients nowNs => exact (h.prune hclock).observe rfl fun _ => rfl

/-- The clock of a run: the time of its last operation. -/
def registryClock (ops : List (RegistryOperation ρ)) : ℕ :=
  (ops.getLast?.map (·.nowNs.toNat)).getD 0

theorem registryInvariant_runRegistry [Inhabited ρ] (cfg : TransportConfig)
    {ops : List (RegistryOperation ρ)} (hsorted : ops.Pairwise fun a b => a.nowNs ≤ b.nowNs) :
    RegistryInvariant cfg ops (registryClock ops) (runRegistry cfg ops) := by
  induction ops using List.reverseRecOn with
  | nil => exact ⟨List.nodup_nil, by simp [runRegistry], by simp, by simp [visits]⟩
  | append_singleton ops op ih =>
      rw [List.pairwise_append] at hsorted
      obtain ⟨hops, -, hlast⟩ := hsorted
      have hclock : registryClock ops ≤ op.nowNs.toNat := by
        rw [registryClock]
        cases hlatest : ops.getLast? with
        | none => exact Nat.zero_le _
        | some latest => exact hlast latest (List.mem_of_getLast? hlatest) op (by simp)
      have hnext := (ih hops).runRegistryOperation op hclock
      have hrun : runRegistry cfg (ops ++ [op]) =
          Server.runRegistryOperation cfg (runRegistry cfg ops) op := by
        rw [runRegistry, List.foldl_append]
        rfl
      rw [hrun]
      simpa [registryClock] using hnext

/-- What the registry of a run shows of its history. -/
structure MatchesHistory [Inhabited ρ] (cfg : TransportConfig) (timeoutNs : ℕ)
    (ops : List (RegistryOperation ρ)) : Prop where
  nodup : ((runRegistry cfg ops).map (·.address)).Nodup
  snapshot_nodup : ∀ nowNs, (∀ op ∈ ops, op.nowNs ≤ nowNs) →
    (snapshotClients cfg nowNs (runRegistry cfg ops)).2.Nodup
  snapshot : ∀ nowNs, (∀ op ∈ ops, op.nowNs ≤ nowNs) → ∀ address,
    (address ∈ (snapshotClients cfg nowNs (runRegistry cfg ops)).2 ↔
      ∃ latest ∈ (visits address ops).head?, nowNs.toNat - latest.nowNs.toNat ≤ timeoutNs)
  report : ∀ client ∈ runRegistry cfg ops,
    heldReport client = newestReport (sinceEntry timeoutNs (visits client.address ops))
  hasReport : ∀ client ∈ runRegistry cfg ops,
    (client.hasReport = false ↔
      ∀ visit ∈ sinceEntry timeoutNs (visits client.address ops), visit.report = none)

theorem newestReport_eq_none {visits : List (Visit ρ)} :
    newestReport visits = none ↔ ∀ visit ∈ visits, visit.report = none := by
  simp [newestReport, List.findSome?_eq_none_iff]

theorem heldReport_eq_none {client : UdpClientEndpoint ρ} :
    heldReport client = none ↔ client.hasReport = false := by
  cases hreport : client.hasReport <;> simp [heldReport, hreport]

/-- The clients known after any run at nondecreasing times: nobody twice, a snapshot of
exactly those that registered within the timeout, each with the newest report since it
entered. -/
theorem runRegistry_matchesHistory [Inhabited ρ] {cfg : TransportConfig}
    (hnonneg : 0 ≤ cfg.udpClientTimeoutMs) (hint : cfg.udpClientTimeoutMs < 2 ^ 31)
    {ops : List (RegistryOperation ρ)} (hsorted : ops.Pairwise fun a b => a.nowNs ≤ b.nowNs) :
    MatchesHistory cfg (cfg.udpClientTimeoutMs.toNat * 1000000) ops := by
  have hinv := registryInvariant_runRegistry cfg hsorted
  rw [← clientTimeoutNs_eq hnonneg hint]
  have hpruned : ∀ nowNs, (∀ op ∈ ops, op.nowNs ≤ nowNs) →
      RegistryInvariant cfg ops nowNs.toNat
        (pruneStaleClients cfg nowNs (runRegistry cfg ops)) := by
    intro nowNs hlast
    refine hinv.prune ?_
    rw [registryClock]
    cases hlatest : ops.getLast? with
    | none => exact Nat.zero_le _
    | some latest => exact hlast latest (List.mem_of_getLast? hlatest)
  have hreport : ∀ client ∈ runRegistry cfg ops, heldReport client =
      newestReport (sinceEntry (clientTimeoutNs cfg) (visits client.address ops)) := by
    intro client hclient
    obtain ⟨latest, older, hvisits, -, hheld⟩ := hinv.describes client hclient
    rw [hvisits, hheld]
  refine ⟨hinv.nodup, fun nowNs hlast => (hpruned nowNs hlast).nodup,
    fun nowNs hlast address => ⟨fun hmem => ?_, ?_⟩, hreport, fun client hclient => ?_⟩
  · obtain ⟨client, hclient, rfl⟩ := List.mem_map.mp hmem
    obtain ⟨latest, older, hvisits, hseen, -⟩ := (hpruned nowNs hlast).describes client hclient
    have hfresh := not_isStale_of_mem client hclient
    rw [hseen] at hfresh
    exact ⟨latest, by simp [hvisits], by omega⟩
  · rintro ⟨latest, hlatest, hrecent⟩
    exact (hpruned nowNs hlast).present address latest hlatest (by omega)
  · rw [← heldReport_eq_none, hreport client hclient, newestReport_eq_none]

/-- A client that reports, falls silent for six seconds and comes back. -/
def returningClient : List (RegistryOperation ℕ) :=
  [.registerClient ⟨4000, 1⟩ 0 (some 7), .registerClient ⟨4001, 1⟩ 1000000000 (some 8),
    .registerClient ⟨4001, 1⟩ 2000000000 none, .snapshotClients 5000000000,
    .registerClient ⟨4000, 1⟩ 6000000000 none]

theorem returningClient_matchesHistory :
    MatchesHistory {} (({} : TransportConfig).udpClientTimeoutMs.toNat * 1000000)
      returningClient :=
  runRegistry_matchesHistory (by decide) (by decide) (by decide)

/-- It comes back without the report it had sent before. -/
example : (runRegistry {} returningClient).map (fun client => (client.address, heldReport client)) =
    [(⟨4001, 1⟩, some (8, 1000000000)), (⟨4000, 1⟩, none)] := by
  decide

end

end AvProject.Server
