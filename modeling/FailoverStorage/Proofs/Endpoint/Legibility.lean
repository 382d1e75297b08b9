import FailoverStorage.Proofs.Endpoint.RoundTrip

/-!
# Reading without records

An export keeps its path and its networks as properties of the resource definition.  Endpoints of
other protocols may share the resource and replace its definition, so an export must also be
readable from a definition that records nothing, or only one of the two.

**From the agents.**  Then the path is read off the directory of the first exported volume, and the
networks off the agents that export it (`exportPathOf_exports`, `allowedIpsOf_exports`).  Without
volumes the settings of a request that leaves everything open are read.

**Shapes.**  Sizes and the group are not in a configuration, so what is read back of a settled
endpoint is settled but for these (`Endpoint.Shaped`).  Whatever a definition records of settled
endpoints, an endpoint is read back exactly if no initiator contains a blank, and then in a good
shape and with the same identity and initiators (`ofPromoter_cases`).
-/

namespace FailoverStorage

open Text

/-! ## Export paths -/

namespace Endpoint

open Agent

variable {p : Protocol}

/-- **A path at which volumes can be exported**: absolute and normalized. -/
def IsExportPath (path : String) : Prop :=
  isNormalPath path.toList = true ∧ ¬ (path ≠ "/" ∧ path.toList.getLast? = some '/')

/-- The settings of an export pass their check with one service IP and an export path. -/
lemma checkSettings_nfs_iff {ips : List ServiceIp} {s : NfsSettings} :
    checkSettings (p := .nfs) ips s = .ok () ↔ ips.length = 1 ∧ IsExportPath s.exportPath := by
  simp only [checkSettings, IsExportPath]
  split
  · simp_all
  split
  · simp_all
  split <;> simp_all

/-- The path of an export that asks for none is an export path. -/
lemma isExportPath_default {name : String} (h : ResourceName.check name = .ok ()) :
    IsExportPath (defaultExportPath name) := by
  have hfault := ResourceName.check_eq_ok_iff.1 h
  have hbody : ∀ c ∈ name.toList, ResourceName.isBody c = true := fun c hc =>
    ResourceName.isBody_of_mem hfault hc
  have hslash : '/' ∉ name.toList := fun hc => absurd (hbody _ hc) (by decide)
  have hdot : '.' ∉ name.toList := fun hc => absurd (hbody _ hc) (by decide)
  have hlist : (defaultExportPath name).toList = '/' :: name.toList := by
    rw [defaultExportPath, String.toList_append]
    rfl
  have hne : name.toList ≠ [] := fun hnil => by
    rw [hnil] at hfault
    cases hfault
  obtain ⟨c, rest, hcons⟩ := List.exists_cons_of_ne_nil hne
  have hoccurs : occurs "//".toList ('/' :: name.toList) = false := by
    have hrest : occurs ['/', '/'] name.toList = false := occurs_eq_false_of_notMem hslash
    have hc : '/' ≠ c := fun heq => hslash (hcons ▸ heq ▸ List.mem_cons_self)
    show occurs ['/', '/'] ('/' :: name.toList) = false
    rw [occurs, hrest, hcons]
    simp [dropStart, hc]
  have hsplit : splitAll '/' ('/' :: name.toList) = [[], name.toList] := by
    rw [splitAll, if_pos rfl, splitAll_of_notMem hslash]
  refine ⟨?_, fun hends => hslash ?_⟩
  · have hparent : name.toList ≠ ['.', '.'] := fun heq => hdot (by rw [heq]; decide)
    have hself : name.toList ≠ ['.'] := fun heq => hdot (by rw [heq]; decide)
    rw [isNormalPath, hlist, hoccurs, hsplit]
    simp [hparent, hself]
  · obtain ⟨-, hlast⟩ := hends
    rw [hlist, hcons, List.getLast?_cons_cons, ← hcons] at hlast
    exact List.mem_of_getLast? hlast

/-! ## Reading from the agents -/

section

variable {name : String} {s : NfsSettings}

/-- The agent that exports a volume to one of the networks. -/
def exportAgent (name : String) (s : NfsSettings) (v : Volume) (ip : ServiceIp) (i : Nat) : Agent :=
  .ofList Agent.exportKind ("export_" ++ decimal v.number.toNat ++ "_" ++ decimal i)
    [("clientspec", ip.address.text ++ "/" ++ ip.netmask), ("allowed_ip", ip.text),
      ("directory", volumeDirectory s.exportPath v.number),
      ("fsid", decimal ((volumeId nfsDomain name v.number).leading 4)),
      ("options", "rw,all_squash,anonuid=0,anongid=0"), ("wait_for_leasetime_on_stop", "true")]

lemma exportAgents_eq (name : String) (s : NfsSettings) (v : Volume) :
    exportAgents name s v = s.allowedIps.zipIdx.map fun x => exportAgent name s v x.1 x.2 := rfl

lemma require_exportAgent (name : String) (s : NfsSettings) (v : Volume) (ip : ServiceIp)
    (i : Nat) :
    (exportAgent name s v ip i).require "directory"
        = .ok (volumeDirectory s.exportPath v.number)
      ∧ (exportAgent name s v ip i).require "allowed_ip" = .ok ip.text := by
  constructor <;> simp [exportAgent, require, get?, ofList, SortedMap.find?_ofList]

/-- **The path of an export shows in the directory of its first volume**; without volumes it is read
as the default. -/
lemma exportPathOf_exports (hne : s.allowedIps ≠ []) (volumes : List Volume)
    (volumeDefinitions : List VolumeDefinition) :
    exportPathOf name none (volumes.flatMap (exportAgents name s))
        (volumes.map (resized volumeDefinitions))
      = .ok (if volumes = [] then defaultExportPath name else s.exportPath) := by
  cases volumes with
  | nil => rfl
  | cons v rest =>
      obtain ⟨ip, ips, hips⟩ := List.exists_cons_of_ne_nil hne
      obtain ⟨agents, hcons⟩ : ∃ agents, exportAgents name s v
          = exportAgent name s v ip 0 :: agents := by
        rw [exportAgents_eq, hips]
        exact ⟨_, rfl⟩
      have hdirectory := (require_exportAgent name s v ip 0).1
      have hlist : (volumeDirectory s.exportPath v.number).toList = exportRoot.toList
          ++ (s.exportPath.toList ++ ("/vol" ++ decimal v.number.toNat).toList) := by
        simp [volumeDirectory, String.toList_append]
      have hpath : (dropStart exportRoot.toList
          (volumeDirectory s.exportPath v.number).toList).bind
            (dropEnding ("/vol" ++ decimal v.number.toNat).toList) = some s.exportPath.toList := by
        rw [hlist, dropStart_append, Option.bind_some, dropEnding_append]
      rw [List.flatMap_cons, hcons, List.cons_append, List.map_cons, exportPathOf]
      simp only [hdirectory, ok_bind, resized, hpath]
      rw [String.ofList_toList]
      rfl

/-- The names of the agents that export a volume begin with its number. -/
lemma isSome_dropStart_exportAgent {v w : Volume} (ip : ServiceIp) (i : Nat) :
    (dropStart ("export_" ++ decimal v.number.toNat ++ "_").toList
      (exportAgent name s w ip i).name.toList).isSome = true ↔ w.number = v.number := by
  have hname : (exportAgent name s w ip i).name.toList
      = "export_".toList ++ ((decimal w.number.toNat).toList ++ '_' :: (decimal i).toList) := by
    simp [exportAgent, ofList, String.toList_append]
  have hstart : ("export_" ++ decimal v.number.toNat ++ "_").toList
      = "export_".toList ++ ((decimal v.number.toNat).toList ++ ['_']) := by
    simp [String.toList_append]
  have hdigits : ∀ n : Nat, '_' ∉ (decimal n).toList := notMem_decimal rfl
  rw [Option.isSome_iff_exists]
  constructor
  · rintro ⟨rest, hrest⟩
    rw [dropStart_eq_some_iff, hname, hstart, List.append_assoc, List.append_right_inj,
      List.append_assoc] at hrest
    have hcut := congrArg (splitFirst '_') hrest
    rw [splitFirst_append (hdigits _), List.singleton_append, splitFirst_append (hdigits _)] at hcut
    have hdecimal : decimal w.number.toNat = decimal v.number.toNat := by
      have hlists := congrArg Prod.fst (Option.some.inj hcut)
      exact String.toList_inj.1 hlists
    exact UInt32.toNat_inj.1 (decimal_inj hdecimal)
  · intro hnumber
    refine ⟨(decimal i).toList, ?_⟩
    rw [dropStart_eq_some_iff, hname, hstart, hnumber]
    simp

/-- The agents whose names begin with a number are those that export the volumes of that number. -/
lemma filter_exportAgents (v : Volume) (volumes : List Volume) :
    (volumes.flatMap (exportAgents name s)).filter (fun a =>
        (dropStart ("export_" ++ decimal v.number.toNat ++ "_").toList a.name.toList).isSome)
      = (volumes.filter (·.number = v.number)).flatMap (exportAgents name s) := by
  induction volumes with
  | nil => rfl
  | cons w volumes ih =>
      rw [List.flatMap_cons, List.filter_append, ih]
      by_cases hnumber : w.number = v.number
      · have hall : (exportAgents name s w).filter (fun a => (dropStart
            ("export_" ++ decimal v.number.toNat ++ "_").toList a.name.toList).isSome)
            = exportAgents name s w := by
          refine List.filter_eq_self.2 fun a ha => ?_
          obtain ⟨x, -, rfl⟩ := List.mem_map.1 ha
          exact (isSome_dropStart_exportAgent x.1 x.2).2 hnumber
        rw [hall, List.filter_cons, if_pos (decide_eq_true hnumber), List.flatMap_cons]
      · have hnone : (exportAgents name s w).filter (fun a => (dropStart
            ("export_" ++ decimal v.number.toNat ++ "_").toList a.name.toList).isSome) = [] := by
          refine List.filter_eq_nil_iff.2 fun a ha hsome => hnumber ?_
          obtain ⟨x, -, rfl⟩ := List.mem_map.1 ha
          exact (isSome_dropStart_exportAgent x.1 x.2).1 hsome
        rw [hnone, List.filter_cons, if_neg (by simpa using hnumber), List.nil_append]

/-- The networks are read off every volume that has the number of the first one. -/
lemma allowedIpsOf_exports_cons (hne : s.allowedIps ≠ []) (v : Volume) (rest : List Volume)
    (volumeDefinitions : List VolumeDefinition) :
    allowedIpsOf none ((v :: rest).flatMap (exportAgents name s))
        ((v :: rest).map (resized volumeDefinitions))
      = .ok (((v :: rest).filter (·.number = v.number)).flatMap fun _ => s.allowedIps) := by
  have hread : (((v :: rest).filter (·.number = v.number)).flatMap (exportAgents name s)).mapM
      (fun a : Agent => do
        let ip ← a.require "allowed_ip"
        asPromoterError ("agent '" ++ a.name ++ "': ") (ServiceIp.parse ip))
      = .ok (((v :: rest).filter (·.number = v.number)).flatMap fun _ =>
        s.allowedIps.zipIdx.map Prod.fst) := by
    refine mapM_flatMap_eq_ok fun w _ => ?_
    rw [exportAgents_eq, List.mapM_map]
    refine mapM_eq_ok_map fun x _ => ?_
    rw [Function.comp_apply, (require_exportAgent name s w x.1 x.2).2, ok_bind,
      ServiceIp.parse_text]
    rfl
  have hself : (v :: rest).filter (·.number = v.number)
      = v :: rest.filter (·.number = v.number) :=
    List.filter_cons_of_pos (decide_eq_true rfl)
  rw [hself, List.zipIdx_map_fst] at hread
  simp only [List.map_cons, allowedIpsOf, resized, filter_exportAgents, hself, hread, ok_bind]
  simp [hne]

/-- **The networks of an export show in the agents of its first volume**; without volumes everyone
may mount. -/
lemma allowedIpsOf_exports (hne : s.allowedIps ≠ []) {volumes : List Volume}
    (hnodup : (volumes.map (·.number)).Nodup) (volumeDefinitions : List VolumeDefinition) :
    allowedIpsOf none (volumes.flatMap (exportAgents name s))
        (volumes.map (resized volumeDefinitions))
      = .ok (if volumes = [] then [ServiceIp.anyV4] else s.allowedIps) := by
  cases volumes with
  | nil => rfl
  | cons v rest =>
      obtain ⟨hv, -⟩ := List.nodup_cons.1 hnodup
      have honly : rest.filter (·.number = v.number) = [] :=
        List.filter_eq_nil_iff.2 fun w hw hnumber =>
          hv (List.mem_map.2 ⟨w, hw, of_decide_eq_true hnumber⟩)
      rw [allowedIpsOf_exports_cons hne, List.filter_cons, honly]
      simp

end

/-! ## What definitions record -/

/-- **Properties from which an export can be read**: what they record is an export path and a list
of networks. -/
structure LegibleProperties (properties : SortedMap String String) : Prop where
  path : ∀ path, properties.find? exportPathProperty = some path → IsExportPath path
  networks : ∀ text, properties.find? allowedIpsProperty = some text →
    ∃ ips : List ServiceIp, ips ≠ [] ∧ text = joinWith "," (ips.map ServiceIp.text)

/-- The properties of a settled endpoint can be read. -/
lemma Settled.legibleProperties {e : Endpoint p} (h : e.Settled) :
    LegibleProperties e.properties := by
  cases p with
  | iscsi => exact ⟨fun _ hp => (nomatch hp), fun _ ht => nomatch ht⟩
  | nvmeof => exact ⟨fun _ hp => (nomatch hp), fun _ ht => nomatch ht⟩
  | nfs =>
      have hchecked := checkSettings_nfs_iff.1 h.checked
      have hrecorded : ∀ key value, e.properties.find? key = some value →
          ({ name := "", resourceGroup := "", properties := e.properties
            } : ResourceDefinition).properties.find? key = some value := fun _ _ h => h
      obtain ⟨hpath, hnetworks⟩ := recorded_of_properties hrecorded
      refine ⟨fun path hp => ?_, fun text ht => ⟨_, h.allowedIps_ne_nil, ?_⟩⟩
      · cases hpath.symm.trans hp
        exact hchecked.2
      · cases hnetworks.symm.trans ht
        rfl

/-! ## Shapes -/

/-- **An endpoint that is settled but for the sizes of its volumes and its group.** -/
structure Shaped (e : Endpoint p) : Prop where
  name : ResourceName.check e.resourceName = .ok ()
  checked : checkSettings e.serviceIps e.settings = .ok ()
  filled : fillSettings e.identity e.settings = e.settings
  fileSystems : ∀ v ∈ e.volumes, fillVolume p v = v
  ascending : Ascending (·.number) e.volumes
  numbers : ∀ v ∈ e.volumes, v.number ≠ Volume.privateNumber

lemma Settled.shaped {e : Endpoint p} (h : e.Settled) : e.Shaped :=
  ⟨h.name, h.checked, h.filled, h.fileSystems, h.ascending, h.numbers⟩

/-- An endpoint keeps its shape under other sizes. -/
lemma Shaped.withSizes {e : Endpoint p} (h : e.Shaped) (size : Volume → UInt64) :
    ({ e with volumes := e.volumes.map fun v => { v with sizeKib := size v } } :
      Endpoint p).Shaped := by
  have hfill : ∀ (v : Volume) (n : UInt64),
      fillVolume p { v with sizeKib := n } = { fillVolume p v with sizeKib := n } := by
    cases p <;> exact fun _ _ => rfl
  refine ⟨h.name, h.checked, h.filled, fun v hv => ?_, List.pairwise_map.2 h.ascending,
    fun v hv => ?_⟩
  · obtain ⟨w, hw, rfl⟩ := List.mem_map.1 hv
    rw [hfill, h.fileSystems w hw]
  · obtain ⟨w, hw, rfl⟩ := List.mem_map.1 hv
    exact h.numbers w hw

lemma Shaped.withoutVolume {e : Endpoint p} (h : e.Shaped) (number : UInt32) :
    (e.withoutVolume number).Shaped where
  name := h.name
  checked := h.checked
  filled := h.filled
  fileSystems := fun v hv => h.fileSystems v (mem_withoutVolume.1 hv).1
  ascending := h.ascending.filter _
  numbers := fun v hv => h.numbers v (mem_withoutVolume.1 hv).1

/-- **An endpoint of a good shape is a settled one with other sizes and another group**, and has its
configurations. -/
lemma Shaped.exists_settled {e : Endpoint p} (h : e.Shaped) : ∃ d : Endpoint p, d.Settled
    ∧ d.identity = e.identity ∧ d.serviceIps = e.serviceIps ∧ d.settings = e.settings
    ∧ d.volumes = e.volumes.map (fun v => { v with sizeKib := 1 })
    ∧ ∀ placements, d.toPromoter placements = e.toPromoter placements := by
  have hsized := h.withSizes fun _ => 1
  refine ⟨{ e with
    volumes := e.volumes.map fun v => { v with sizeKib := 1 }
    resourceGroup := defaultResourceGroup }, ?_, rfl, rfl, rfl, rfl, fun placements => ?_⟩
  · refine ⟨hsized.name, hsized.checked, hsized.filled, hsized.fileSystems, hsized.ascending,
      hsized.numbers, fun v hv => ?_, ?_⟩
    · obtain ⟨w, -, rfl⟩ := List.mem_map.1 hv
      exact (by decide : (1 : UInt64) ≠ 0)
    · show defaultResourceGroup ≠ ""
      decide
  · refine toPromoter_congr rfl rfl rfl ?_ rfl
    rw [List.map_map]
    rfl

/-! ## Reading -/

/-- The path of an export can be read whatever the definition records. -/
lemma exists_exportPathOf {e : Endpoint .nfs} (h : e.Settled)
    {definition : Option ResourceDefinition}
    (hlegible : ∀ d, definition = some d → LegibleProperties d.properties)
    (volumeDefinitions : List VolumeDefinition) :
    ∃ path, exportPathOf e.identity (recorded definition exportPathProperty)
        (e.volumes.flatMap (exportAgents e.identity e.settings))
        (e.volumes.map (resized volumeDefinitions)) = .ok path ∧ IsExportPath path := by
  cases hrecorded : recorded definition exportPathProperty with
  | some path =>
      obtain ⟨d, hd, hpath⟩ := Option.bind_eq_some_iff.1 hrecorded
      exact ⟨path, rfl, (hlegible d hd).path path hpath⟩
  | none =>
      refine ⟨_, exportPathOf_exports h.allowedIps_ne_nil _ _, ?_⟩
      split
      · exact isExportPath_default h.name
      · exact (checkSettings_nfs_iff.1 h.checked).2

/-- The networks of an export can be read whatever the definition records. -/
lemma exists_allowedIpsOf {e : Endpoint .nfs} (h : e.Settled)
    {definition : Option ResourceDefinition}
    (hlegible : ∀ d, definition = some d → LegibleProperties d.properties)
    (volumeDefinitions : List VolumeDefinition) :
    ∃ ips, allowedIpsOf (recorded definition allowedIpsProperty)
        (e.volumes.flatMap (exportAgents e.identity e.settings))
        (e.volumes.map (resized volumeDefinitions)) = .ok ips ∧ ips ≠ [] := by
  cases hrecorded : recorded definition allowedIpsProperty with
  | some text =>
      obtain ⟨d, hd, htext⟩ := Option.bind_eq_some_iff.1 hrecorded
      obtain ⟨ips, hne, rfl⟩ := (hlegible d hd).networks text htext
      exact ⟨ips, allowedIpsOf_texts hne _ _, hne⟩
  | none =>
      refine ⟨_, allowedIpsOf_exports h.allowedIps_ne_nil h.ascending.nodup _, ?_⟩
      split
      · exact List.cons_ne_nil _ _
      · exact h.allowedIps_ne_nil

/-- Settings with a path and networks leave nothing open. -/
lemma fillSettings_nfs {name path : String} {ips : List ServiceIp} (hpath : IsExportPath path)
    (hips : ips ≠ []) :
    fillSettings (p := .nfs) name ({ exportPath := path, allowedIps := ips } : NfsSettings)
      = ({ exportPath := path, allowedIps := ips } : NfsSettings) := by
  have hne : path ≠ "" := by
    rintro rfl
    cases hpath.1
  simp only [fillSettings, String.isEmpty_iff, List.isEmpty_iff, hne, hips, if_false]
  rfl

/-- **Reading a configuration** that a settled endpoint has.  Unless an initiator contains a blank,
an endpoint of a good shape with the same identity and initiators comes of it, whatever is deployed
and recorded; otherwise it fails. -/
theorem ofPromoter_cases {e : Endpoint p} (h : e.Settled) {placements : List Placement}
    {c : PromoterConfig} (hc : e.toPromoter placements = .ok c)
    {definition : Option ResourceDefinition}
    (hlegible : ∀ d, definition = some d → LegibleProperties d.properties)
    (volumeDefinitions : List VolumeDefinition) :
    ((∀ iqn ∈ initiators e.settings, IsBlankFree iqn.text)
        ∧ ∃ b, ofPromoter p c definition volumeDefinitions = .ok b ∧ b.Shaped
          ∧ b.identity = e.identity ∧ initiators b.settings = initiators e.settings)
      ∨ (¬ ∀ iqn ∈ initiators e.settings, IsBlankFree iqn.text)
        ∧ ∃ err, ofPromoter p c definition volumeDefinitions = .error err := by
  by_cases hblank : ∀ iqn ∈ initiators e.settings, IsBlankFree iqn.text
  · refine .inl ⟨hblank, ?_⟩
    have hsizes := h.shaped.withSizes fun v => sizeOf volumeDefinitions v.number
    have hshaped : (e.recovered definition volumeDefinitions).Shaped :=
      ⟨hsizes.name, hsizes.checked, hsizes.filled, hsizes.fileSystems, hsizes.ascending,
        hsizes.numbers⟩
    cases p with
    | iscsi =>
        refine ⟨_, ?_, hshaped, rfl, rfl⟩
        rw [ofPromoter, targetOf_toPromoter h hc, readInitiators_eq_ok hblank]
        rfl
    | nvmeof =>
        exact ⟨_, subsystemOf_toPromoter h hc definition volumeDefinitions, hshaped, rfl, rfl⟩
    | nfs =>
        obtain ⟨path, hpath, hexport⟩ := exists_exportPathOf h hlegible volumeDefinitions
        obtain ⟨ips, hips, hne⟩ := exists_allowedIpsOf h hlegible volumeDefinitions
        refine ⟨_, exportOf_toPromoter_eq h hc hpath hips, ?_, rfl, rfl⟩
        exact ⟨hshaped.name,
          checkSettings_nfs_iff.2 ⟨(checkSettings_nfs_iff.1 h.checked).1, hexport⟩,
          fillSettings_nfs hexport hne, hshaped.fileSystems, hshaped.ascending, hshaped.numbers⟩
  · exact .inr ⟨hblank, ofPromoter_eq_error h hblank hc definition volumeDefinitions⟩

end Endpoint

end FailoverStorage
