import FailoverStorage.Endpoint.Recovery
import FailoverStorage.Proofs.Endpoint.Configuration
import FailoverStorage.Proofs.Naming.QualifiedName
import FailoverStorage.Proofs.Promoter.Document
import FailoverStorage.Proofs.Promoter.Network

/-!
# Endpoints read back from their configurations

What is read from the configuration of a settled endpoint is the endpoint again, but for what the
storage controller tells: the sizes of the volumes, the group, and whether sizes are gross
(`Endpoint.recovered`).

**Agents by kind.**  Reading looks agents up by their kind, and the agents around a service are of
three kinds which no service has.  So each lookup comes down to the agents of the service.

**Initiators.**  The initiators that may log in stand in one attribute, separated by blanks.  One
that contains a blank itself falls apart into words, and the first of them lacks the colon of a
qualified name.  This is the only way in which reading can fail (`ofPromoter_eq_recovered`,
`ofPromoter_eq_error`).
-/

namespace FailoverStorage.Endpoint

open Text Agent

variable {p : Protocol}

/-! ## Agents by kind -/

@[simp] lemma shared_inj {a b : String} : shared a = shared b ↔ a = b := String.append_right_inj _

@[simp] lemma kind_mount (name device directory fileSystem : String) :
    (mount name device directory fileSystem).kind = fileSystemKind := rfl

/-- The agents of one kind between the first agent of a service and its last ones. -/
lemma filter_kind_middle {kind : String} {first : Agent} {middle last : List Agent}
    (hfirst : first.kind ≠ kind) (hmiddle : ∀ a ∈ middle, a.kind = kind)
    (hlast : ∀ a ∈ last, a.kind ≠ kind) :
    (first :: middle ++ last).filter (·.kind = kind) = middle := by
  have hall : middle.filter (·.kind = kind) = middle :=
    List.filter_eq_self.2 fun a ha => by simpa using hmiddle a ha
  have hnone : last.filter (·.kind = kind) = [] :=
    List.filter_eq_nil_iff.2 fun a ha => by simpa using hlast a ha
  rw [List.filter_append, List.filter_cons, if_neg (by simpa using hfirst), hall, hnone,
    List.append_nil]

/-- The agents of one kind at the end of a service. -/
lemma filter_kind_last {kind : String} {first : Agent} {middle last : List Agent}
    (hfirst : first.kind ≠ kind) (hmiddle : ∀ a ∈ middle, a.kind ≠ kind)
    (hlast : ∀ a ∈ last, a.kind = kind) :
    (first :: middle ++ last).filter (·.kind = kind) = last := by
  have hnone : middle.filter (·.kind = kind) = [] :=
    List.filter_eq_nil_iff.2 fun a ha => by simpa using hmiddle a ha
  have hall : last.filter (·.kind = kind) = last :=
    List.filter_eq_self.2 fun a ha => by simpa using hlast a ha
  rw [List.filter_append, List.filter_cons, if_neg (by simpa using hfirst), hnone, hall,
    List.nil_append]

/-- Around a service there are no agents of its kinds. -/
lemma filter_agentsAround (e : Endpoint p) (service : List Agent) (placements : List Placement)
    {kind : String}
    (hkind : kind ≠ fileSystemKind ∧ kind ≠ portBlockKind ∧ kind ≠ addressKind) :
    (agentsAround e service placements).filter (·.kind = kind)
      = service.filter (·.kind = kind) := by
  obtain ⟨hmount, hblock, hclaim⟩ := hkind
  rw [agentsAround, leadingAgents, trailingAgents]
  simp only [List.filter_append, List.filter_cons, kind_mount, hmount.symm, decide_false,
    Bool.false_eq_true, if_false]
  rw [filter_map_of_kind_ne (fun _ => hblock.symm), filter_map_of_kind_ne (fun _ => hclaim.symm),
    filter_map_of_kind_ne (fun _ => hblock.symm), List.nil_append, List.nil_append,
    List.append_nil]

lemma find?_agentsAround (e : Endpoint p) (service : List Agent) (placements : List Placement)
    {kind : String}
    (hkind : kind ≠ fileSystemKind ∧ kind ≠ portBlockKind ∧ kind ≠ addressKind) :
    (agentsAround e service placements).find? (·.kind = kind) = service.find? (·.kind = kind) := by
  rw [← List.head?_filter, filter_agentsAround e service placements hkind, List.head?_filter]

/-- The file systems mounted around a service are the cluster-private one. -/
lemma filter_fileSystem_agentsAround (e : Endpoint p) (service : List Agent)
    (placements : List Placement) :
    (agentsAround e service placements).filter (·.kind = fileSystemKind)
      = mount "fs_cluster_private" (devicePath e.resourceName Volume.privateNumber placements)
          (privateRoot ++ "/" ++ e.resourceName) "ext4"
        :: service.filter (·.kind = fileSystemKind) := by
  have hblock : portBlockKind ≠ fileSystemKind := by simp [portBlockKind, fileSystemKind]
  have hclaim : addressKind ≠ fileSystemKind := by simp [addressKind, fileSystemKind]
  rw [agentsAround, leadingAgents, trailingAgents]
  simp only [List.filter_append, List.filter_cons, kind_mount, decide_true, if_true]
  rw [filter_map_of_kind_ne (fun _ => hblock), filter_map_of_kind_ne (fun _ => hclaim),
    filter_map_of_kind_ne (fun _ => hblock), List.append_nil, List.append_nil]
  rfl

/-! ## Service IPs -/

/-- Around a service the service IPs of its endpoint are claimed. -/
lemma serviceIps_agentsAround (e : Endpoint p) {service : List Agent}
    (hservice : ∀ a ∈ service, a.kind ≠ addressKind) (placements : List Placement) :
    Agent.serviceIps (agentsAround e service placements) = .ok e.serviceIps := by
  have hmount : fileSystemKind ≠ addressKind := by simp [fileSystemKind, addressKind]
  have hblock : portBlockKind ≠ addressKind := by simp [portBlockKind, addressKind]
  have hnone : service.filter (·.kind = addressKind) = [] :=
    List.filter_eq_nil_iff.2 fun a ha => by simpa using hservice a ha
  refine serviceIps_eq_ok ?_
  rw [agentsAround, leadingAgents, trailingAgents]
  simp only [List.filter_append, List.filter_cons, kind_mount, hmount, hnone, decide_false,
    Bool.false_eq_true, if_false]
  rw [filter_map_of_kind_ne (fun _ => hblock), filter_map_of_kind_eq addressKind (fun _ => rfl),
    filter_map_of_kind_ne (fun _ => hblock), List.nil_append, List.append_nil, List.append_nil]
  rfl

/-! ## Volumes -/

/-- A volume with the size that its definition has. -/
def resized (volumeDefinitions : List VolumeDefinition) (v : Volume) : Volume :=
  { v with sizeKib := sizeOf volumeDefinitions v.number }

/-- What the agents of its volumes tell of an endpoint: numbers, and the file systems of files. -/
def volumeKeys (e : Endpoint p) : List (UInt32 × Option String) :=
  e.volumes.map fun v => volumeKey (fillVolume p v)

/-- **The volumes of an endpoint stand in order**, and none is the cluster-private one. -/
structure Ordered (e : Endpoint p) : Prop where
  order : e.volumes.Pairwise fun v w => v.number ≤ w.number
  numbers : ∀ v ∈ e.volumes, v.number ≠ Volume.privateNumber

lemma Settled.ordered {e : Endpoint p} (h : e.Settled) : e.Ordered :=
  ⟨h.ascending.imp fun hlt => UInt32.le_of_lt hlt, h.numbers⟩

/-- **Volumes that stand in order are those that their agents name**, in their order. -/
lemma Ordered.volumesOf_volumeKeys {e : Endpoint p} (h : e.Ordered)
    (volumeDefinitions : List VolumeDefinition) :
    volumesOf e.volumeKeys volumeDefinitions
      = (e.volumes.map (fillVolume p)).map (resized volumeDefinitions) := by
  have hfilter : e.volumeKeys.filter (·.1 ≠ Volume.privateNumber) = e.volumeKeys := by
    refine List.filter_eq_self.2 fun k hk => ?_
    obtain ⟨v, hv, rfl⟩ := List.mem_map.1 hk
    refine decide_eq_true fun hprivate => h.numbers v hv ?_
    rwa [volumeKey, number_fillVolume] at hprivate
  have horder : ((e.volumes.map (fillVolume p)).map (resized volumeDefinitions)).Pairwise
      fun v w => v.number ≤ w.number := by
    refine List.pairwise_map.2 (List.pairwise_map.2 (h.order.imp fun {v w} hle => ?_))
    show (fillVolume p v).number ≤ (fillVolume p w).number
    rwa [number_fillVolume, number_fillVolume]
  have hnamed : (e.volumeKeys.map fun k =>
      ({ number := k.1, sizeKib := sizeOf volumeDefinitions k.1, fileSystem := k.2 } : Volume))
        = (e.volumes.map (fillVolume p)).map (resized volumeDefinitions) := by
    rw [volumeKeys, List.map_map, List.map_map]
    rfl
  rw [volumesOf, hfilter]
  exact (congrArg Volume.sort hnamed).trans (sortOn_of_pairwise _ horder)

/-- The volumes of a settled endpoint are those that its agents name. -/
lemma Settled.volumesOf_volumeKeys {e : Endpoint p} (h : e.Settled)
    (volumeDefinitions : List VolumeDefinition) :
    volumesOf e.volumeKeys volumeDefinitions = e.volumes.map (resized volumeDefinitions) := by
  have hfilled : e.volumes.map (fillVolume p) = e.volumes :=
    (List.map_congr_left h.fileSystems).trans (List.map_id' _)
  rw [h.ordered.volumesOf_volumeKeys, hfilled]

/-- The numbers that the agents of volumes carry. -/
lemma numbersOf_eq_map {agents : List Agent} {kind key : String} {volumes : List Volume}
    {f : Volume → Agent} (hfilter : agents.filter (·.kind = kind) = volumes.map f)
    (hkey : ∀ v, (f v).get? key = some (decimal v.number.toNat)) :
    numbersOf agents kind key = .ok (volumes.map fun v => (v.number, none)) := by
  rw [numbersOf, hfilter, List.mapM_map]
  refine mapM_eq_ok_map fun v _ => ?_
  simp [requireNumber, require, hkey]

/-! ## Initiators -/

/-- The initiators that may log in; only an iSCSI target has some. -/
def initiators : {p : Protocol} → p.Settings → List Iqn
  | .iscsi, s => (s : IscsiSettings).allowedInitiators
  | .nfs, _ | .nvmeof, _ => []

/-- Reads the initiators of an attribute. -/
def readInitiators (text : String) : Except Error (List Iqn) :=
  (Text.words text.toList).mapM fun w => Iqn.parse (String.ofList w)

/-- Initiators without blanks are the words of their attribute. -/
lemma readInitiators_eq_ok {l : List Iqn} (h : ∀ iqn ∈ l, IsBlankFree iqn.text) :
    readInitiators (joinWith " " (l.map Iqn.text)) = .ok l := by
  have hwords : Text.words (joinWith " " (l.map Iqn.text)).toList
      = l.map fun iqn => iqn.text.toList := by
    rw [words_joinWith, List.map_map]
    · rfl
    · intro s hs
      obtain ⟨iqn, hiqn, rfl⟩ := List.mem_map.1 hs
      refine ⟨fun hempty => ?_, h iqn hiqn⟩
      obtain ⟨authority, name, htext, -⟩ := iqn.exists_text_eq
      rw [hempty] at htext
      simp at htext
  have hparse : l.mapM ((fun w => Iqn.parse (String.ofList w)) ∘ fun iqn => iqn.text.toList)
      = .ok (l.map fun iqn => iqn) :=
    mapM_eq_ok_map fun iqn _ => by
      rw [Function.comp_apply, String.ofList_toList, Iqn.parse_text]
  rw [readInitiators, hwords, List.mapM_map, hparse, List.map_id']

/-- **An initiator with a blank cannot be read**: its first word has no colon. -/
lemma readInitiators_eq_error {l : List Iqn} {iqn : Iqn} (hmem : iqn ∈ l)
    (h : ¬ IsBlankFree iqn.text) :
    ∃ err, readInitiators (joinWith " " (l.map Iqn.text)) = .error err := by
  obtain ⟨w, hw, hcolon⟩ := Iqn.exists_word_of_not_isBlankFree h
  have hmemWords : w ∈ Text.words (joinWith " " (l.map Iqn.text)).toList := by
    rw [words_joinWith_eq_flatMap]
    exact List.mem_flatMap.2 ⟨iqn.text, List.mem_map_of_mem hmem, hw⟩
  refine mapM_eq_error_of_mem hmemWords (Iqn.exists_parse_eq_error ?_)
  rwa [String.toList_ofList]

/-! ## What is read back -/

/-- **The endpoint that is read back**: sizes, group and kind of sizes are those of the storage
controller. -/
def recovered (e : Endpoint p) (definition : Option ResourceDefinition)
    (volumeDefinitions : List VolumeDefinition) : Endpoint p :=
  { e with
    volumes := e.volumes.map (resized volumeDefinitions)
    resourceGroup := groupOf definition
    grossSize := grossSizeOf volumeDefinitions
    status := {} }

/-- The endpoint that is read back of one that need not be settled: its volumes are put in order. -/
def reread (e : Endpoint p) (definition : Option ResourceDefinition)
    (volumeDefinitions : List VolumeDefinition) : Endpoint p :=
  { e.recovered definition volumeDefinitions with
    volumes := volumesOf e.volumeKeys volumeDefinitions }

lemma Settled.reread_eq {e : Endpoint p} (h : e.Settled) (definition : Option ResourceDefinition)
    (volumeDefinitions : List VolumeDefinition) :
    e.reread definition volumeDefinitions = e.recovered definition volumeDefinitions := by
  rw [reread, h.volumesOf_volumeKeys]
  rfl

lemma groupOf_some {definition : ResourceDefinition} (h : definition.resourceGroup ≠ "") :
    groupOf (some definition) = definition.resourceGroup := by
  have hfilter : (some definition.resourceGroup).filter (!·.isEmpty)
      = some definition.resourceGroup := by
    simpa [Option.filter_eq_some_iff] using h
  rw [groupOf, Option.map_some, hfilter, Option.getD_some]

lemma groupOf_congr {d d' : ResourceDefinition} (h : d'.resourceGroup = d.resourceGroup) :
    groupOf (some d') = groupOf (some d) := by
  rw [groupOf, groupOf, Option.map_some, Option.map_some, h]

/-- What runs for an endpoint. -/
def promoted (start : List Agent) : PromotedResource :=
  { start, stopServicesOnExit := true
    onDemoteFailure := "reboot-immediate", targetAs := "Requires" }

lemma resource_single (id resource : String) (start : List Agent) :
    (PromoterConfig.single id resource start).resource = .ok (resource, promoted start) := rfl

/-! ## iSCSI -/

section

variable {e : Endpoint .iscsi}

/-- A login that passes its check has both a name and a password. -/
lemma password_of_checkSettings {ips : List ServiceIp} {s : IscsiSettings}
    (hchecked : checkSettings (p := .iscsi) ips s = .ok ()) (husername : s.username = "") :
    s.password = "" := by
  simp only [checkSettings] at hchecked
  split at hchecked
  · cases hchecked
  split at hchecked
  · cases hchecked
  · rename_i hboth
    have hempty : ("" : String).isEmpty = true := rfl
    rw [husername, hempty] at hboth
    exact String.isEmpty_iff.1 (Decidable.not_not.1 hboth).symm

lemma Settled.password_of_username (h : e.Settled)
    (husername : (e.settings : IscsiSettings).username = "") :
    (e.settings : IscsiSettings).password = "" :=
  password_of_checkSettings h.checked husername

lemma get?_targetAgent (iqn : Iqn) (ips : List ServiceIp) (s : IscsiSettings) :
    (targetAgent iqn ips s).get? "iqn" = some iqn.text
      ∧ ((targetAgent iqn ips s).get? "incoming_username").getD "" = s.username
      ∧ ((targetAgent iqn ips s).get? "incoming_password").getD ""
        = (if s.username = "" then "" else s.password)
      ∧ ((targetAgent iqn ips s).get? "allowed_initiators").getD ""
        = joinWith " " (s.allowedInitiators.map Iqn.text) := by
  by_cases husername : s.username = "" <;> by_cases hinitiators : s.allowedInitiators = [] <;>
    simp [targetAgent, get?, ofList, SortedMap.find?_ofList, husername, hinitiators, joinWith]

lemma get?_unitAgent (iqn : Iqn) (placements : List Placement) (v : Volume) :
    (unitAgent iqn placements v).get? "lun" = some (decimal v.number.toNat) := by
  simp [unitAgent, get?, ofList, SortedMap.find?_ofList]

/-- What is read from a configuration whose parts can all be read but for the initiators. -/
lemma targetOf_eq {c : PromoterConfig} {resource text : String} {r : PromotedResource}
    {target : Agent} {iqn : Iqn} {numbers : List (UInt32 × Option String)} {ips : List ServiceIp}
    (hresource : c.resource = .ok (resource, r))
    (hfind : findAgent c r.start iscsiTargetKind "iSCSI target" = .ok target)
    (htext : target.require "iqn" = .ok text) (hiqn : Iqn.parse text = .ok iqn)
    (hname : iqn.resourceName = resource) (hid : c.id = Protocol.configId (p := .iscsi) iqn)
    (hnumbers : numbersOf r.start logicalUnitKind "lun" = .ok numbers)
    (hips : Agent.serviceIps r.start = .ok ips) (definition : Option ResourceDefinition)
    (volumeDefinitions : List VolumeDefinition) :
    targetOf c definition volumeDefinitions
      = (fun l =>
          { identity := iqn, serviceIps := ips
            settings :=
              { username := (target.get? "incoming_username").getD ""
                password := (target.get? "incoming_password").getD ""
                allowedInitiators := l : IscsiSettings }
            volumes := volumesOf numbers volumeDefinitions
            resourceGroup := groupOf definition
            grossSize := grossSizeOf volumeDefinitions })
        <$> asPromoterError ""
          (readInitiators ((target.get? "allowed_initiators").getD "")) := by
  have hcheck : checkConfigId (p := .iscsi) c iqn = .ok () := if_pos hid
  rw [targetOf, hresource]
  simp only [ok_bind, hfind, htext, hiqn, asPromoterError, hname, hcheck, hnumbers, hips]
  rw [if_neg (not_not_intro rfl), readInitiators]
  cases (Text.words ((target.get? "allowed_initiators").getD "").toList).mapM
    fun w => Iqn.parse (String.ofList w) <;> rfl

/-- What is read from the configuration of any target. -/
lemma targetOf_toPromoter_eq {placements : List Placement} {c : PromoterConfig}
    (hc : e.toPromoter placements = .ok c) (definition : Option ResourceDefinition)
    (volumeDefinitions : List VolumeDefinition) :
    targetOf c definition volumeDefinitions
      = (fun l => { e.reread definition volumeDefinitions with
          settings :=
            { username := (e.settings : IscsiSettings).username
              password := if (e.settings : IscsiSettings).username = "" then ""
                else (e.settings : IscsiSettings).password
              allowedInitiators := l : IscsiSettings } })
        <$> asPromoterError ""
          (readInitiators (joinWith " " ((initiators e.settings).map Iqn.text))) := by
  obtain ⟨service, hservice, rfl⟩ := toPromoter_eq_ok_iff.1 hc
  cases hservice
  obtain ⟨hiqn, husername, hpassword, hallowed⟩ :=
    get?_targetAgent e.identity e.serviceIps e.settings
  set target := targetAgent e.identity e.serviceIps e.settings
  set units := e.volumes.map (unitAgent e.identity placements)
  set start := agentsAround e (target :: units) placements
  have hkind : target.kind = iscsiTargetKind := rfl
  have hfind : findAgent (.single e.configId e.resourceName start) start iscsiTargetKind
      "iSCSI target" = .ok target := by
    rw [findAgent, find?_agentsAround]
    · simp [hkind]
    · simp [iscsiTargetKind, fileSystemKind, portBlockKind, addressKind]
  have hunits : start.filter (·.kind = logicalUnitKind) = units := by
    rw [filter_agentsAround]
    · have hne : iscsiTargetKind ≠ logicalUnitKind := by simp [iscsiTargetKind, logicalUnitKind]
      rw [List.filter_cons, hkind, if_neg (by simpa using hne),
        filter_map_of_kind_eq logicalUnitKind fun _ => rfl]
    · simp [logicalUnitKind, fileSystemKind, portBlockKind, addressKind]
  have hnumbers : numbersOf start logicalUnitKind "lun" = .ok e.volumeKeys :=
    numbersOf_eq_map hunits fun v => get?_unitAgent _ _ v
  have hips : Agent.serviceIps start = .ok e.serviceIps := by
    refine serviceIps_agentsAround e (fun a ha => ?_) placements
    rcases List.mem_cons.1 ha with rfl | ha
    · simp [hkind, iscsiTargetKind, addressKind]
    · obtain ⟨v, -, rfl⟩ := List.mem_map.1 ha
      have hunit : (unitAgent e.identity placements v).kind = logicalUnitKind := rfl
      simp [hunit, logicalUnitKind, addressKind]
  have hread := targetOf_eq (resource_single e.configId e.resourceName start) hfind
    (show target.require "iqn" = _ by rw [require, hiqn]) (Iqn.parse_text e.identity) rfl rfl
    hnumbers hips definition volumeDefinitions
  rw [hread, husername, hpassword, hallowed]
  rfl

/-- **What is read from the configuration of a target** is the target, if its initiators can be
read. -/
lemma targetOf_toPromoter (h : e.Settled) {placements : List Placement} {c : PromoterConfig}
    (hc : e.toPromoter placements = .ok c) (definition : Option ResourceDefinition)
    (volumeDefinitions : List VolumeDefinition) :
    targetOf c definition volumeDefinitions
      = (fun l => { e.recovered definition volumeDefinitions with
          settings := ({ (e.settings : IscsiSettings) with
            allowedInitiators := l } : IscsiSettings) })
        <$> asPromoterError ""
          (readInitiators (joinWith " " ((initiators e.settings).map Iqn.text))) := by
  have hlogin : (if (e.settings : IscsiSettings).username = "" then ""
      else (e.settings : IscsiSettings).password) = (e.settings : IscsiSettings).password := by
    split
    · rename_i hempty
      exact (h.password_of_username hempty).symm
    · rfl
  rw [targetOf_toPromoter_eq hc, hlogin, h.reread_eq]

end

/-! ## NFS -/

section

variable {e : Endpoint .nfs}

lemma Settled.allowedIps_ne_nil (h : e.Settled) : (e.settings : NfsSettings).allowedIps ≠ [] := by
  intro hnil
  have hfilled := congrArg NfsSettings.allowedIps h.filled
  simp [fillSettings, hnil] at hfilled

/-- The properties of an export are its path and its networks. -/
lemma find?_properties_nfs {key value : String} : e.properties.find? key = some value
    ↔ key = exportPathProperty ∧ value = (e.settings : NfsSettings).exportPath
      ∨ key = allowedIpsProperty
        ∧ value = joinWith "," ((e.settings : NfsSettings).allowedIps.map ServiceIp.text) := by
  have hne : exportPathProperty ≠ allowedIpsProperty := by
    simp [exportPathProperty, allowedIpsProperty]
  rw [properties]
  simp only [SortedMap.find?_ofList, List.foldl_cons, List.foldl_nil]
  by_cases hpath : key = exportPathProperty
  · subst hpath
    simp [hne, eq_comm]
  · by_cases hnetworks : key = allowedIpsProperty
    · subst hnetworks
      simp [hpath, eq_comm]
    · simp [hpath, hnetworks]

lemma find?_exportPath (e : Endpoint .nfs) : e.properties.find? exportPathProperty
    = some (e.settings : NfsSettings).exportPath :=
  find?_properties_nfs.2 (.inl ⟨rfl, rfl⟩)

lemma find?_allowedIps (e : Endpoint .nfs) : e.properties.find? allowedIpsProperty
    = some (joinWith "," ((e.settings : NfsSettings).allowedIps.map ServiceIp.text)) :=
  find?_properties_nfs.2 (.inr ⟨rfl, rfl⟩)

/-- What a definition records under a key. -/
def recorded (definition : Option ResourceDefinition) (key : String) : Option String :=
  definition.bind fun d => d.properties.find? key

/-- A definition with the properties of an export records its path and its networks. -/
lemma recorded_of_properties {definition : ResourceDefinition}
    (hproperties : ∀ key value, e.properties.find? key = some value →
      definition.properties.find? key = some value) :
    definition.properties.find? exportPathProperty = some (e.settings : NfsSettings).exportPath
      ∧ definition.properties.find? allowedIpsProperty
        = some (joinWith "," ((e.settings : NfsSettings).allowedIps.map ServiceIp.text)) :=
  ⟨hproperties _ _ e.find?_exportPath, hproperties _ _ e.find?_allowedIps⟩

/-- The volumes are those of the agents whose names end in a number. -/
lemma mountedVolumes_map (name exportPath : String) (placements : List Placement)
    (volumes : List Volume) :
    mountedVolumes (volumes.map (mountAgent name exportPath placements))
      = .ok (volumes.map fun v => volumeKey (fillVolume .nfs v)) := by
  induction volumes with
  | nil => rfl
  | cons v volumes ih =>
      have hnumber : (dropStart "fs_".toList
          (mountAgent name exportPath placements v).name.toList).bind
            (fun n => word32? (String.ofList n)) = some v.number := by
        have hname : (mountAgent name exportPath placements v).name.toList
            = "fs_".toList ++ (decimal v.number.toNat).toList := String.toList_append
        rw [hname, dropStart_append, Option.bind_some, String.ofList_toList, word32?_decimal]
      have hfstype : (mountAgent name exportPath placements v).require "fstype"
          = .ok (v.fileSystem.getD defaultFileSystem) := by
        simp [mountAgent, mount, require, get?, ofList, SortedMap.find?_ofList]
      rw [List.map_cons, mountedVolumes, hnumber]
      simp only [hfstype, ok_bind, ih]
      rfl

/-- The cluster-private volume is not exported. -/
lemma mountedVolumes_private (device directory fileSystem : String) (rest : List Agent) :
    mountedVolumes (mount "fs_cluster_private" device directory fileSystem :: rest)
      = mountedVolumes rest := by
  have hnone : (dropStart "fs_".toList "fs_cluster_private".toList).bind
      (fun n => word32? (String.ofList n)) = none := by
    decide
  have hname : (mount "fs_cluster_private" device directory fileSystem).name
      = "fs_cluster_private" := rfl
  rw [mountedVolumes, hname, hnone]

/-- The networks that may mount read back from their property. -/
lemma allowedIpsOf_texts {ips : List ServiceIp} (hne : ips ≠ []) (exports : List Agent)
    (volumes : List Volume) :
    allowedIpsOf (some (joinWith "," (ips.map ServiceIp.text))) exports volumes = .ok ips := by
  have hread : ips.mapM ((fun ip => asPromoterError ("property " ++ allowedIpsProperty ++ ": ")
      (ServiceIp.parse (String.ofList ip))) ∘ fun ip => ip.text.toList)
      = .ok (ips.map fun ip => ip) :=
    mapM_eq_ok_map fun ip _ => by
      rw [Function.comp_apply, String.ofList_toList, ServiceIp.parse_text]
      rfl
  rw [allowedIpsOf]
  simp only [ServiceIp.splitAll_texts hne]
  rw [List.mapM_map, hread, List.map_id', ok_bind]
  simp [hne]

/-- What is read from a configuration whose parts can all be read. -/
lemma exportOf_eq {c : PromoterConfig} {name path : String} {r : PromotedResource}
    {server : Agent} {ips allowedIps : List ServiceIp} {numbers : List (UInt32 × Option String)}
    {definition : Option ResourceDefinition} {volumeDefinitions : List VolumeDefinition}
    (hresource : c.resource = .ok (name, r))
    (hid : c.id = Protocol.configId (p := .nfs) name)
    (hfind : findAgent c r.start nfsServerKind "NFS server" = .ok server)
    (hips : Agent.serviceIps r.start = .ok ips)
    (hnumbers : mountedVolumes (r.start.filter (·.kind = fileSystemKind)) = .ok numbers)
    (hpath : exportPathOf name (recorded definition exportPathProperty)
      (r.start.filter (·.kind = exportKind)) (volumesOf numbers volumeDefinitions) = .ok path)
    (hallowed : allowedIpsOf (recorded definition allowedIpsProperty)
      (r.start.filter (·.kind = exportKind)) (volumesOf numbers volumeDefinitions)
        = .ok allowedIps) :
    exportOf c definition volumeDefinitions
      = .ok
        { identity := name, serviceIps := ips
          settings := { exportPath := path, allowedIps : NfsSettings }
          volumes := volumesOf numbers volumeDefinitions
          resourceGroup := groupOf definition
          grossSize := grossSizeOf volumeDefinitions } := by
  have hcheck : checkConfigId (p := .nfs) c name = .ok () := if_pos hid
  rw [recorded] at hpath hallowed
  rw [exportOf, hresource]
  simp only [ok_bind, hcheck, hfind, hips, hnumbers, hpath, hallowed]
  rfl

/-- What is read from the configuration of any export. -/
lemma exportOf_toPromoter_reread {placements : List Placement} {c : PromoterConfig}
    (hc : e.toPromoter placements = .ok c) {definition : Option ResourceDefinition}
    {volumeDefinitions : List VolumeDefinition} {path : String} {allowedIps : List ServiceIp}
    (hpath : exportPathOf e.identity (recorded definition exportPathProperty)
      (e.volumes.flatMap (exportAgents e.identity e.settings))
      (volumesOf e.volumeKeys volumeDefinitions) = .ok path)
    (hallowed : allowedIpsOf (recorded definition allowedIpsProperty)
      (e.volumes.flatMap (exportAgents e.identity e.settings))
      (volumesOf e.volumeKeys volumeDefinitions) = .ok allowedIps) :
    exportOf c definition volumeDefinitions
      = .ok { e.reread definition volumeDefinitions with
          settings := ({ exportPath := path, allowedIps } : NfsSettings) } := by
  obtain ⟨service, hservice, rfl⟩ := toPromoter_eq_ok_iff.1 hc
  cases haddresses : e.serviceIps with
  | nil =>
      rw [serviceAgents, haddresses] at hservice
      cases hservice
  | cons ip rest =>
      rw [serviceAgents, haddresses] at hservice
      cases hservice
      set server := serverAgent e.identity ip
      set mounts := e.volumes.map
        (mountAgent e.identity (e.settings : NfsSettings).exportPath placements)
      set exports := e.volumes.flatMap (exportAgents e.identity e.settings)
      set start := agentsAround e (server :: mounts ++ exports) placements
      have hserver : server.kind = nfsServerKind := rfl
      have hmounts : ∀ a ∈ mounts, a.kind = fileSystemKind := by
        intro a ha
        obtain ⟨v, -, rfl⟩ := List.mem_map.1 ha
        rfl
      have hexports : ∀ a ∈ exports, a.kind = exportKind := by
        intro a ha
        obtain ⟨v, -, ha⟩ := List.mem_flatMap.1 ha
        obtain ⟨x, -, rfl⟩ := List.mem_map.1 ha
        rfl
      have hfind : findAgent (.single e.configId e.resourceName start) start nfsServerKind
          "NFS server" = .ok server := by
        rw [findAgent, find?_agentsAround]
        · simp [hserver]
        · simp [nfsServerKind, fileSystemKind, portBlockKind, addressKind]
      have hips : Agent.serviceIps start = .ok e.serviceIps := by
        refine serviceIps_agentsAround e (List.forall_mem_append.2
          ⟨List.forall_mem_cons.2 ⟨?_, fun a ha => ?_⟩, fun a ha => ?_⟩) placements
        · simp [hserver, nfsServerKind, addressKind]
        · simp [hmounts a ha, fileSystemKind, addressKind]
        · simp [hexports a ha, exportKind, addressKind]
      have hnumbers : mountedVolumes (start.filter (·.kind = fileSystemKind))
          = .ok e.volumeKeys := by
        rw [filter_fileSystem_agentsAround, mountedVolumes_private, filter_kind_middle
          (by simp [hserver, nfsServerKind, fileSystemKind]) hmounts
          fun a ha => by simp [hexports a ha, exportKind, fileSystemKind]]
        exact mountedVolumes_map _ _ _ _
      have hexported : start.filter (·.kind = exportKind) = exports := by
        rw [filter_agentsAround]
        · exact filter_kind_last (by simp [hserver, nfsServerKind, exportKind])
            (fun a ha => by simp [hmounts a ha, exportKind, fileSystemKind]) hexports
        · simp [exportKind, fileSystemKind, portBlockKind, addressKind]
      rw [← hexported] at hpath hallowed
      rw [exportOf_eq (resource_single e.configId e.resourceName start) rfl hfind hips hnumbers
        hpath hallowed]
      rfl

/-- **What is read from the configuration of an export** is the export, with the path and the
networks that can be read. -/
lemma exportOf_toPromoter_eq (h : e.Settled) {placements : List Placement} {c : PromoterConfig}
    (hc : e.toPromoter placements = .ok c) {definition : Option ResourceDefinition}
    {volumeDefinitions : List VolumeDefinition} {path : String} {allowedIps : List ServiceIp}
    (hpath : exportPathOf e.identity (recorded definition exportPathProperty)
      (e.volumes.flatMap (exportAgents e.identity e.settings))
      (e.volumes.map (resized volumeDefinitions)) = .ok path)
    (hallowed : allowedIpsOf (recorded definition allowedIpsProperty)
      (e.volumes.flatMap (exportAgents e.identity e.settings))
      (e.volumes.map (resized volumeDefinitions)) = .ok allowedIps) :
    exportOf c definition volumeDefinitions
      = .ok { e.recovered definition volumeDefinitions with
          settings := ({ exportPath := path, allowedIps } : NfsSettings) } := by
  rw [← h.volumesOf_volumeKeys] at hpath hallowed
  rw [exportOf_toPromoter_reread hc hpath hallowed, h.reread_eq]

/-- **An export comes back as it was** if the definition carries its properties. -/
lemma exportOf_toPromoter (h : e.Settled) {placements : List Placement} {c : PromoterConfig}
    (hc : e.toPromoter placements = .ok c) {definition : ResourceDefinition}
    (hproperties : ∀ key value, e.properties.find? key = some value →
      definition.properties.find? key = some value)
    (volumeDefinitions : List VolumeDefinition) :
    exportOf c definition volumeDefinitions = .ok (e.recovered definition volumeDefinitions) := by
  obtain ⟨hpath, hnetworks⟩ := recorded_of_properties hproperties
  refine exportOf_toPromoter_eq h hc ?_ ?_
  · rw [recorded, Option.bind_some, hpath]
    rfl
  · rw [recorded, Option.bind_some, hnetworks]
    exact allowedIpsOf_texts h.allowedIps_ne_nil _ _

end

/-! ## NVMe-oF -/

section

variable {e : Endpoint .nvmeof}

lemma Settled.exists_serviceIps_eq_cons (h : e.Settled) : ∃ ip ips, e.serviceIps = ip :: ips := by
  have hchecked := h.checked
  cases hips : e.serviceIps with
  | nil =>
      rw [hips] at hchecked
      cases hchecked
  | cons ip ips => exact ⟨ip, ips, rfl⟩

/-- What is read from a configuration whose parts can all be read. -/
lemma subsystemOf_eq {c : PromoterConfig} {resource text : String} {r : PromotedResource}
    {subsystem port : Agent} {nqn : Nqn} {number : UInt16}
    {numbers : List (UInt32 × Option String)} {ips : List ServiceIp}
    (hresource : c.resource = .ok (resource, r))
    (hsubsystem : findAgent c r.start subsystemKind "NVMe-oF subsystem" = .ok subsystem)
    (htext : subsystem.require "nqn" = .ok text) (hnqn : Nqn.parse text = .ok nqn)
    (hname : nqn.resourceName = resource) (hid : c.id = Protocol.configId (p := .nvmeof) nqn)
    (hport : findAgent c r.start nvmePortKind "NVMe-oF port" = .ok port)
    (hnumber : port.requireNumber word16? "svcid" = .ok number)
    (hnumbers : numbersOf r.start namespaceKind "namespace_id" = .ok numbers)
    (hips : Agent.serviceIps r.start = .ok ips) (definition : Option ResourceDefinition)
    (volumeDefinitions : List VolumeDefinition) :
    subsystemOf c definition volumeDefinitions
      = .ok
        { identity := nqn, serviceIps := ips
          settings := { port := number : NvmeSettings }
          volumes := volumesOf numbers volumeDefinitions
          resourceGroup := groupOf definition
          grossSize := grossSizeOf volumeDefinitions } := by
  have hcheck : checkConfigId (p := .nvmeof) c nqn = .ok () := if_pos hid
  rw [subsystemOf, hresource]
  simp only [ok_bind, hsubsystem, htext, hnqn, asPromoterError, hname, hcheck, hport, hnumber,
    hnumbers, hips]
  rw [if_neg (not_not_intro rfl)]
  rfl

/-- What is read from the configuration of any subsystem with a service IP. -/
lemma subsystemOf_toPromoter_reread {ip : ServiceIp} {ips : List ServiceIp}
    (haddresses : e.serviceIps = ip :: ips) {placements : List Placement} {c : PromoterConfig}
    (hc : e.toPromoter placements = .ok c) (definition : Option ResourceDefinition)
    (volumeDefinitions : List VolumeDefinition) :
    subsystemOf c definition volumeDefinitions
      = .ok (e.reread definition volumeDefinitions) := by
  obtain ⟨service, hservice, rfl⟩ := toPromoter_eq_ok_iff.1 hc
  cases hservice
  set subsystem := subsystemAgent e.identity
  set spaces := e.volumes.map (namespaceAgent e.identity placements)
  set portAgents := e.serviceIps.zipIdx.map
    fun x => portAgent e.identity (ports e.settings) x.1 x.2
  set start := agentsAround e (subsystem :: spaces ++ portAgents) placements
  have hsubsystem : subsystem.kind = subsystemKind := rfl
  have hspaces : ∀ a ∈ spaces, a.kind = namespaceKind := by
    intro a ha
    obtain ⟨v, -, rfl⟩ := List.mem_map.1 ha
    rfl
  have hports : ∀ a ∈ portAgents, a.kind = nvmePortKind := by
    intro a ha
    obtain ⟨x, -, rfl⟩ := List.mem_map.1 ha
    rfl
  have hfindSubsystem : findAgent (.single e.configId e.resourceName start) start subsystemKind
      "NVMe-oF subsystem" = .ok subsystem := by
    rw [findAgent, find?_agentsAround]
    · simp [hsubsystem]
    · simp [subsystemKind, fileSystemKind, portBlockKind, addressKind]
  have hfindPort : findAgent (.single e.configId e.resourceName start) start nvmePortKind
      "NVMe-oF port" = .ok (portAgent e.identity (ports e.settings) ip 0) := by
    have hfilter : (subsystem :: spaces ++ portAgents).filter (·.kind = nvmePortKind)
        = portAgents :=
      filter_kind_last (by simp [hsubsystem, subsystemKind, nvmePortKind])
        (fun a ha => by simp [hspaces a ha, namespaceKind, nvmePortKind]) hports
    rw [findAgent, find?_agentsAround, ← List.head?_filter, hfilter]
    · simp only [portAgents, haddresses, List.zipIdx_cons, List.map_cons, List.head?_cons]
    · simp [nvmePortKind, fileSystemKind, portBlockKind, addressKind]
  have hfilter : start.filter (·.kind = namespaceKind) = spaces := by
    rw [filter_agentsAround]
    · exact filter_kind_middle (by simp [hsubsystem, subsystemKind, namespaceKind]) hspaces
        fun a ha => by simp [hports a ha, nvmePortKind, namespaceKind]
    · simp [namespaceKind, fileSystemKind, portBlockKind, addressKind]
  have hnumbers : numbersOf start namespaceKind "namespace_id" = .ok e.volumeKeys :=
    numbersOf_eq_map hfilter
      fun v => by simp [namespaceAgent, get?, ofList, SortedMap.find?_ofList]
  have hips : Agent.serviceIps start = .ok e.serviceIps := by
    refine serviceIps_agentsAround e (List.forall_mem_append.2
      ⟨List.forall_mem_cons.2 ⟨?_, fun a ha => ?_⟩, fun a ha => ?_⟩) placements
    · simp [hsubsystem, subsystemKind, addressKind]
    · simp [hspaces a ha, namespaceKind, addressKind]
    · simp [hports a ha, nvmePortKind, addressKind]
  have hnqn : subsystem.require "nqn" = .ok (e.identity : Nqn).text := by
    simp [subsystem, subsystemAgent, require, get?, ofList, SortedMap.find?_ofList]
  have hnumber : (portAgent e.identity (ports e.settings) ip 0).requireNumber word16? "svcid"
      = .ok (e.settings : NvmeSettings).port := by
    simp [portAgent, requireNumber, require, get?, ofList, SortedMap.find?_ofList, ports]
  have hread := subsystemOf_eq (resource_single e.configId e.resourceName start) hfindSubsystem
    hnqn (Nqn.parse_text e.identity) rfl rfl hfindPort hnumber hnumbers hips definition
    volumeDefinitions
  rw [hread]
  rfl

/-- **What is read from the configuration of a subsystem** is the subsystem. -/
lemma subsystemOf_toPromoter (h : e.Settled) {placements : List Placement} {c : PromoterConfig}
    (hc : e.toPromoter placements = .ok c) (definition : Option ResourceDefinition)
    (volumeDefinitions : List VolumeDefinition) :
    subsystemOf c definition volumeDefinitions
      = .ok (e.recovered definition volumeDefinitions) := by
  obtain ⟨ip, ips, haddresses⟩ := h.exists_serviceIps_eq_cons
  rw [subsystemOf_toPromoter_reread haddresses hc, h.reread_eq]

end

/-! ## All protocols -/

/-- **A settled endpoint whose initiators have no blanks is read back** from its configuration and
from a definition that carries its properties. -/
theorem ofPromoter_eq_recovered {e : Endpoint p} (h : e.Settled)
    (hblank : ∀ iqn ∈ initiators e.settings, IsBlankFree iqn.text) {placements : List Placement}
    {c : PromoterConfig} (hc : e.toPromoter placements = .ok c) {definition : ResourceDefinition}
    (hproperties : ∀ key value, e.properties.find? key = some value →
      definition.properties.find? key = some value)
    (volumeDefinitions : List VolumeDefinition) :
    ofPromoter p c (some definition) volumeDefinitions
      = .ok (e.recovered (some definition) volumeDefinitions) := by
  cases p with
  | iscsi =>
      rw [ofPromoter, targetOf_toPromoter h hc, readInitiators_eq_ok hblank]
      rfl
  | nfs => exact exportOf_toPromoter h hc hproperties volumeDefinitions
  | nvmeof => exact subsystemOf_toPromoter h hc (some definition) volumeDefinitions

/-- **A settled endpoint with a blank in an initiator is not read back.** -/
theorem ofPromoter_eq_error {e : Endpoint p} (h : e.Settled)
    (hblank : ¬ ∀ iqn ∈ initiators e.settings, IsBlankFree iqn.text) {placements : List Placement}
    {c : PromoterConfig} (hc : e.toPromoter placements = .ok c)
    (definition : Option ResourceDefinition) (volumeDefinitions : List VolumeDefinition) :
    ∃ err, ofPromoter p c definition volumeDefinitions = .error err := by
  cases p with
  | iscsi =>
      rw [not_forall] at hblank
      obtain ⟨iqn, hblank⟩ := hblank
      rw [Classical.not_imp] at hblank
      obtain ⟨err, herr⟩ := readInitiators_eq_error hblank.1 hblank.2
      exact ⟨_, by rw [ofPromoter, targetOf_toPromoter h hc, herr]; rfl⟩
  | nfs => exact absurd (fun _ hiqn => nomatch hiqn) hblank
  | nvmeof => exact absurd (fun _ hiqn => nomatch hiqn) hblank

end FailoverStorage.Endpoint
