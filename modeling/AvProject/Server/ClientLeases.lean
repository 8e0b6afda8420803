import AvProject.Lib.SoftState
import AvProject.Server.UdpServer
import AvProject.Server.UdpEmission

/-!
Who the UDP server sends to. The registry holds leases that the datagrams of the clients
renew, whichever thread comes across a stale one removes it, and no datagram leaves for an
endpoint that has not registered.

The times need not grow along a run: each thread reads the clock before it takes the lock.
-/

namespace AvProject.Server

open AvProject.Lib AvProject.Protocol

/-! ### The registry holds leases -/

section

variable {ρ : Type}

/-- What an operation of the registry is to the leases. -/
def RegistryOperation.access : RegistryOperation ρ → Access SockaddrIn (ρ × UInt64)
  | .registerClient address nowNs report =>
      ⟨nowNs.toNat, some (address, report.map fun report => (report, nowNs))⟩
  | .pruneStaleClients nowNs => ⟨nowNs.toNat, none⟩
  | .snapshotClients nowNs => ⟨nowNs.toNat, none⟩

def UdpClientEndpoint.lease (client : UdpClientEndpoint ρ) : Lease (ρ × UInt64) :=
  ⟨client.lastSeenNs.toNat, heldReport client⟩

/-- The clients are the holders of the leases, each with one entry. -/
structure HoldsLeases (leases : SockaddrIn → Option (Lease (ρ × UInt64)))
    (clients : List (UdpClientEndpoint ρ)) : Prop where
  nodup : (clients.map (·.address)).Nodup
  lease_iff : ∀ address l, leases address = some l ↔
    ∃ client ∈ clients, client.address = address ∧ client.lease = l

section

variable {cfg : TransportConfig} {nowNs : UInt64} {address : SockaddrIn} {report : Option ρ}
  {clients : List (UdpClientEndpoint ρ)} {leases next : SockaddrIn → Option (Lease (ρ × UInt64))}

theorem HoldsLeases.prune (h : HoldsLeases leases clients) :
    HoldsLeases (fun address => keepLease (clientTimeoutNs cfg) nowNs.toNat (leases address))
      (pruneStaleClients cfg nowNs clients) where
  nodup := h.nodup.sublist (List.filter_sublist.map _)
  lease_iff address l := by
    rw [keepLease_eq_some, h.lease_iff]
    constructor
    · rintro ⟨⟨client, hclient, haddress, rfl⟩, hintime⟩
      exact ⟨client, mem_pruneStaleClients.mpr ⟨hclient, hintime⟩, haddress, rfl⟩
    · rintro ⟨client, hclient, haddress, rfl⟩
      obtain ⟨hclient, hintime⟩ := mem_pruneStaleClients.mp hclient
      exact ⟨⟨client, hclient, haddress, rfl⟩, hintime⟩

theorem lease_refreshed (client : UdpClientEndpoint ρ) :
    (refreshed client nowNs report).lease =
      { renewedAt := nowNs.toNat
        report := (report.map fun report => (report, nowNs)).or (heldReport client) } := by
  cases report <;> rfl

/-- The entry of a client that is known is renewed where it stands. -/
theorem HoldsLeases.refresh {before after : List (UdpClientEndpoint ρ)}
    {client : UdpClientEndpoint ρ} (h : HoldsLeases leases (before ++ client :: after))
    (hself : next client.address = some (refreshed client nowNs report).lease)
    (hother : ∀ other ≠ client.address, next other = leases other) :
    HoldsLeases next (before ++ refreshed client nowNs report :: after) where
  nodup := by simpa using h.nodup
  lease_iff address l := by
    by_cases hsame : address = client.address
    · obtain rfl := hsame
      have hunique := h.nodup
      rw [List.map_append, List.map_cons, List.nodup_middle, List.nodup_cons,
        ← List.map_append] at hunique
      rw [hself, Option.some.injEq]
      constructor
      · rintro rfl
        exact ⟨_, by simp, address_refreshed client, rfl⟩
      · rintro ⟨found, hfound, haddress, rfl⟩
        rcases List.mem_append.mp hfound with hbefore | hrest
        · exact absurd (haddress ▸ List.mem_map_of_mem (List.mem_append_left _ hbefore)) hunique.1
        · rcases List.mem_cons.mp hrest with rfl | hafter
          · rfl
          · exact absurd (haddress ▸ List.mem_map_of_mem (List.mem_append_right _ hafter))
              hunique.1
    · rw [hother address hsame, h.lease_iff]
      have hnot (found : UdpClientEndpoint ρ) (haddress : found.address = address) :
          found ≠ client ∧ found ≠ refreshed client nowNs report := by
        refine ⟨?_, ?_⟩ <;> rintro rfl
        · exact hsame haddress.symm
        · exact hsame ((address_refreshed client).symm.trans haddress).symm
      refine exists_congr fun found => and_congr_left fun hfound => ?_
      simp [(hnot found hfound.1).1, (hnot found hfound.1).2]

variable [Inhabited ρ]

@[simp] theorem address_newClient : (newClient address nowNs report).address = address := by
  cases report <;> rfl

theorem lease_newClient :
    (newClient address nowNs report).lease =
      { renewedAt := nowNs.toNat
        report := report.map fun report => (report, nowNs) } := by
  cases report <;> rfl

/-- A client that is not known gets an entry. -/
theorem HoldsLeases.enter (h : HoldsLeases leases clients)
    (habsent : address ∉ clients.map (·.address))
    (hself : next address = some (newClient address nowNs report).lease)
    (hother : ∀ other ≠ address, next other = leases other) :
    HoldsLeases next (clients ++ [newClient address nowNs report]) where
  nodup := by
    rw [List.map_append, List.map_singleton, address_newClient, ← List.concat_eq_append]
    exact h.nodup.concat habsent
  lease_iff other l := by
    have hold (found : UdpClientEndpoint ρ) (hfound : found ∈ clients) :
        found.address ≠ address := by
      rintro rfl
      exact habsent (List.mem_map_of_mem hfound)
    by_cases hsame : other = address
    · obtain rfl := hsame
      rw [hself, Option.some.injEq]
      constructor
      · rintro rfl
        exact ⟨_, by simp, address_newClient, rfl⟩
      · rintro ⟨found, hfound, haddress, rfl⟩
        rcases List.mem_append.mp hfound with hclient | hnew
        · exact absurd haddress (hold found hclient)
        · rw [List.mem_singleton.mp hnew]
    · rw [hother other hsame, h.lease_iff]
      refine exists_congr fun found => and_congr_left fun hfound => ?_
      rw [List.mem_append, List.mem_singleton, or_iff_left]
      rintro rfl
      exact hsame (hfound.1.symm.trans address_newClient)

/-- An operation of the registry is an access to the leases. -/
theorem HoldsLeases.runRegistryOperation (h : HoldsLeases leases clients)
    (op : RegistryOperation ρ) :
    HoldsLeases (fun key => leaseStep (clientTimeoutNs cfg) key (leases key) op.access)
      (Server.runRegistryOperation cfg clients op) := by
  cases op with
  | pruneStaleClients nowNs => exact h.prune
  | snapshotClients nowNs => exact h.prune
  | registerClient address nowNs report =>
      have hpruned : HoldsLeases _ (pruneStaleClients cfg nowNs clients) := h.prune
      have hother (other : SockaddrIn) (hne : other ≠ address) :
          leaseStep (clientTimeoutNs cfg) other (leases other)
            (RegistryOperation.access (.registerClient address nowNs report)) =
          keepLease (clientTimeoutNs cfg) nowNs.toNat (leases other) :=
        if_neg fun heq => hne heq.symm
      have hself :
          leaseStep (clientTimeoutNs cfg) address (leases address)
            (RegistryOperation.access (.registerClient address nowNs report)) = some
          { renewedAt := nowNs.toNat
            report := (report.map fun report => (report, nowNs)).or
              ((keepLease (clientTimeoutNs cfg) nowNs.toNat (leases address)).bind
                Lease.report) } :=
        if_pos rfl
      rw [Server.runRegistryOperation, registerClient]
      generalize pruneStaleClients cfg nowNs clients = pruned at hpruned ⊢
      cases hrefresh : refreshClient address nowNs report pruned with
      | none =>
          have habsent := refreshClient_eq_none hrefresh
          refine hpruned.enter habsent (hself.trans ?_) hother
          have hnone : keepLease (clientTimeoutNs cfg) nowNs.toNat (leases address) = none := by
            rw [Option.eq_none_iff_forall_ne_some]
            intro l hl
            obtain ⟨client, hclient, rfl, -⟩ := (hpruned.lease_iff address l).mp hl
            exact habsent (List.mem_map_of_mem hclient)
          rw [hnone, lease_newClient]
          simp
      | some clients =>
          obtain ⟨before, client, after, rfl, rfl, rfl⟩ := refreshClient_eq_some hrefresh
          refine hpruned.refresh (hself.trans ?_) hother
          have hlease : keepLease (clientTimeoutNs cfg) nowNs.toNat (leases client.address) =
              some client.lease :=
            (hpruned.lease_iff _ _).mpr ⟨client, by simp, rfl, rfl⟩
          rw [hlease, lease_refreshed]
          rfl

theorem runRegistry_append_singleton (cfg : TransportConfig) (ops : List (RegistryOperation ρ))
    (op : RegistryOperation ρ) :
    runRegistry cfg (ops ++ [op]) =
      Server.runRegistryOperation cfg (runRegistry cfg ops) op :=
  List.foldl_append

/-- After any run the registry holds the leases that the run has left alive. -/
theorem runRegistry_holdsLeases (cfg : TransportConfig) (ops : List (RegistryOperation ρ)) :
    HoldsLeases (fun address =>
      leaseAfter (clientTimeoutNs cfg) address (ops.map RegistryOperation.access))
      (runRegistry cfg ops) := by
  induction ops using List.reverseRecOn with
  | nil => exact ⟨List.nodup_nil, fun address l => by simp [leaseAfter, runRegistry]⟩
  | append_singleton ops op ih =>
      simp only [List.map_append, List.map_singleton, leaseAfter_append_singleton,
        runRegistry_append_singleton]
      exact ih.runRegistryOperation op

end

end

end AvProject.Server
