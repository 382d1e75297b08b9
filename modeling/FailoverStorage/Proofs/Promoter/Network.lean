import FailoverStorage.Promoter.Agent.Network
import FailoverStorage.Proofs.Data.Except
import FailoverStorage.Proofs.Data.SortedMap
import FailoverStorage.Proofs.Net.ServiceIp

/-!
# Service IPs in agents

The service IPs of an endpoint are stored in the agents that claim them, one agent for each, and
nowhere else.  Each agent holds the two halves of the text of its service IP, so reading the agents
back comes down to reading that text back.

**The text is faithful** (`ServiceIp.text_faithful`): it denotes its service IP whatever the address
is, reading any other spelling and writing the result leads to it, and a prefix length beyond the
address is never read.  So the agents of a list of service IPs stand for that list
(`Agent.serviceIps_eq_ok`), wherever they stand among other agents.
-/

namespace FailoverStorage

open Text

namespace Agent

/-! ## Agents of one kind -/

lemma filter_map_of_kind_eq {α : Type} {f : α → Agent} (kind : String)
    (h : ∀ a, (f a).kind = kind) (l : List α) :
    (l.map f).filter (·.kind = kind) = l.map f := by
  refine List.filter_eq_self.2 fun a ha => ?_
  obtain ⟨b, -, rfl⟩ := List.mem_map.1 ha
  simpa using h b

lemma filter_map_of_kind_ne {α : Type} {f : α → Agent} {kind : String}
    (h : ∀ a, (f a).kind ≠ kind) (l : List α) :
    (l.map f).filter (·.kind = kind) = [] := by
  refine List.filter_eq_nil_iff.2 fun a ha => ?_
  obtain ⟨b, -, rfl⟩ := List.mem_map.1 ha
  simpa using h b

/-! ## Claims -/

/-- The agents that claim service IPs, in order. -/
def claims (ips : List ServiceIp) : List Agent := ips.zipIdx.map fun x => claim x.2 x.1

lemma claimed_claim (i : Nat) (ip : ServiceIp) : claimed (claim i ip) = .ok ip := by
  have hip : (claim i ip).require "ip" = .ok ip.address.text := by
    simp [claim, require, get?, ofList, SortedMap.find?_ofList]
  have hlength : (claim i ip).require "cidr_netmask" = .ok (decimal ip.prefixLength.toNat) := by
    simp [claim, require, get?, ofList, SortedMap.find?_ofList]
  have hparse : ServiceIp.parse (ip.address.text ++ "/" ++ decimal ip.prefixLength.toNat)
      = .ok ip := ServiceIp.parse_text ip
  rw [claimed, hip, ok_bind, hlength, ok_bind, hparse]

lemma filter_claims (ips : List ServiceIp) :
    (claims ips).filter (·.kind = addressKind) = claims ips :=
  filter_map_of_kind_eq addressKind (fun _ => rfl) _

/-- **The service IPs are those that are claimed.**  Other agents do not matter. -/
lemma serviceIps_eq_ok {agents : List Agent} {ips : List ServiceIp}
    (h : agents.filter (·.kind = addressKind) = claims ips) : serviceIps agents = .ok ips := by
  have hclaims : ips.zipIdx.mapM (claimed ∘ fun x => claim x.2 x.1)
      = .ok (ips.zipIdx.map Prod.fst) :=
    mapM_eq_ok_map fun x _ => claimed_claim x.2 x.1
  rw [serviceIps, h, claims, List.mapM_map, hclaims, List.zipIdx_map_fst]

end Agent

/-! ## Texts -/

namespace ServiceIp

/-- **The text of a service IP is faithful.**  An address and a prefix length that fits it are read
back from their text; what any text denotes is denoted by its own text too; a longer prefix is
refused, however the text is spelled; and a list of service IPs is read back, in order, from the
agents that claim it. -/
theorem text_faithful :
    (∀ (a : IpAddress) (n : Nat), n ≤ a.width →
      ∃ ip, parse (a.text ++ "/" ++ decimal n) = .ok ip
        ∧ ip.address = a ∧ ip.prefixLength.toNat = n ∧ ip.text = a.text ++ "/" ++ decimal n)
    ∧ (∀ s ip, parse s = .ok ip → parse ip.text = .ok ip
      ∧ ip.prefixLength.toNat ≤ if ip.address.isV4 then 32 else 128)
    ∧ (∀ (address length : String) (a : IpAddress) (n : Nat), '/' ∉ address.toList →
      IpAddress.read address.toList = some a → numeral? length.toList = some n → a.width < n →
        ∃ message, parse (address ++ "/" ++ length) = .error (.validation message))
    ∧ ∀ ips : List ServiceIp, Agent.serviceIps (Agent.claims ips) = .ok ips
      ∧ ∀ agents, agents.filter (·.kind = Agent.addressKind) = Agent.claims ips →
        Agent.serviceIps agents = .ok ips := by
  refine ⟨fun a n h => ?_, fun s ip _ => ?_,
    fun _ _ _ _ hslash ha hn => exists_parse_eq_error hslash ha hn, fun ips => ?_⟩
  · obtain ⟨ip, hread, rfl, rfl⟩ :=
      exists_parse_eq_ok (slash_notMem_address a) (IpAddress.read_text a) (numeral?_decimal n) h
    exact ⟨ip, hread, rfl, rfl, rfl⟩
  · exact ⟨parse_text ip, ip.inRange⟩
  · exact ⟨Agent.serviceIps_eq_ok (Agent.filter_claims ips), fun _ => Agent.serviceIps_eq_ok⟩

/-- An address with two zero runs of one length: the first one is shortened. -/
def tied : ServiceIp := ⟨.v6 0xFE80 0 0 1 0 0 0x2 0x3, 64, by decide⟩

/-- A lenient spelling leads to the text, its prefix length cannot be lengthened beyond the address,
and among other agents the claim of the service IP is found. -/
theorem tied_faithful :
    parse "FE80:0:0:1:00:0000:2:3/+064" = .ok tied ∧ tied.text = "fe80::1:0:0:2:3/64"
      ∧ parse "fe80::1:0:0:2:3/64" = .ok tied
      ∧ (∃ ip, parse "fe80::1:0:0:2:3/128" = .ok ip)
      ∧ (∃ message, parse "FE80:0:0:1:00:0000:2:3/0129" = .error (.validation message))
      ∧ Agent.serviceIps [Agent.mount "fs" "/dev/drbd0" "/srv" "ext4", Agent.claim 0 tied]
        = .ok [tied] := by
  have hread : parse "FE80:0:0:1:00:0000:2:3/+064" = .ok tied := by decide +kernel
  have htext : tied.text = "fe80::1:0:0:2:3/64" := by decide +kernel
  have haddress : tied.address.text = "fe80::1:0:0:2:3" := by decide +kernel
  obtain ⟨hfits, hcanonical, hrefused, hclaims⟩ := text_faithful
  obtain ⟨ip, hlongest, -⟩ := hfits tied.address 128 (by decide)
  rw [haddress] at hlongest
  exact ⟨hread, htext, htext ▸ (hcanonical _ _ hread).1, ⟨ip, hlongest⟩,
    hrefused "FE80:0:0:1:00:0000:2:3" "0129" tied.address 129 (by decide +kernel)
      (by decide +kernel) (by decide +kernel) (by decide),
    (hclaims [tied]).2 _ (by decide +kernel)⟩

end ServiceIp

end FailoverStorage
