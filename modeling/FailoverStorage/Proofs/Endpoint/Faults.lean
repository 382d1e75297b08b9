import FailoverStorage.Endpoint.Recovery
import FailoverStorage.Promoter.Document
import FailoverStorage.Proofs.Data.Except

/-!
# Whose fault an unreadable configuration is

A stored configuration may have been written by hand.  Whatever is wrong with it, the error that
reading it ends with is the backend's and never the request's: `PromoterConfig.failsAs_ofToml` for
the document and `Endpoint.failsAs_ofPromoter` for the agents in it.  The parsers of names and
addresses do blame their input, so every use of one on a stored text renames its error.

`FailsAs kind` follows the shape of a `do` block; each reader has one lemma.
-/

namespace FailoverStorage

open Text

/-! ## Errors of one kind -/

/-- **Every failure is of one kind.** -/
def FailsAs {α : Type} (kind : ErrorKind) (result : Except Error α) : Prop :=
  ∀ err, result = .error err → err.kind = kind

namespace FailsAs

variable {α β : Type} {kind : ErrorKind}

lemma ok (a : α) : FailsAs kind (.ok a) := fun _ h => nomatch h

lemma error {err : Error} (h : err.kind = kind) : FailsAs kind (.error err : Except Error α) := by
  intro err' heq
  cases heq
  exact h

lemma bind {x : Except Error α} {f : α → Except Error β} (hx : FailsAs kind x)
    (hf : ∀ a, FailsAs kind (f a)) : FailsAs kind (x >>= f) := by
  intro err h
  cases x with
  | error e =>
      cases h
      exact hx _ rfl
  | ok a => exact hf a err h

lemma map {x : Except Error α} (f : α → β) (hx : FailsAs kind x) : FailsAs kind (x.map f) := by
  intro err h
  cases x with
  | error e =>
      cases h
      exact hx _ rfl
  | ok a => cases h

lemma mapM {f : α → Except Error β} (h : ∀ a, FailsAs kind (f a)) (l : List α) :
    FailsAs kind (l.mapM f) := by
  induction l with
  | nil => exact .ok []
  | cons a l ih =>
      rw [List.mapM_cons]
      exact (h a).bind fun b => ih.bind fun bs => .ok (b :: bs)

lemma foldlM {f : β → α → Except Error β} (h : ∀ b a, FailsAs kind (f b a)) (l : List α) (b : β) :
    FailsAs kind (l.foldlM f b) := by
  induction l generalizing b with
  | nil => exact .ok b
  | cons a l ih =>
      rw [List.foldlM_cons]
      exact (h b a).bind ih

/-- Naming the phase of an error does not change its kind. -/
lemma inPhase {x : Except Error α} (phase : String) (hx : FailsAs kind x) :
    FailsAs kind (FailoverStorage.inPhase phase x) := by
  intro err h
  cases x with
  | error e =>
      cases h
      exact hx e rfl
  | ok a => cases h

end FailsAs

/-! ## Documents -/

namespace PromoterConfig

open Toml

lemma failsAs_readText (v : Value) : FailsAs .backend (readText v) := by
  rw [readText.eq_def]
  split
  · exact .ok _
  · exact .error rfl

lemma failsAs_readBoolean (v : Value) : FailsAs .backend (readBoolean v) := by
  rw [readBoolean.eq_def]
  split
  · exact .ok _
  · exact .error rfl

lemma failsAs_readAgent (v : Value) : FailsAs .backend (readAgent v) := by
  refine (failsAs_readText v).bind fun line => ?_
  split
  · exact .ok _
  · exact .error rfl

lemma failsAs_readItems (v : Value) : FailsAs .backend (readItems v) := by
  rw [readItems.eq_def]
  split
  · exact .ok _
  · exact .ok _
  · exact .error rfl

lemma failsAs_readFields (order : List String) (v : Value) :
    FailsAs .backend (readFields order v) := by
  rw [readFields.eq_def]
  split
  · exact .ok _
  · exact .ok _
  · exact (failsAs_readItems _).map _

lemma failsAs_setResourceField (r : PromotedResource) (key : String) (v : Value) :
    FailsAs .backend (setResourceField r key v) := by
  rw [setResourceField]
  split
  · exact (failsAs_readItems v).bind fun items =>
      (FailsAs.mapM failsAs_readAgent items).bind fun _ => .ok _
  split
  · exact (failsAs_readBoolean v).bind fun _ => .ok _
  split
  · exact (failsAs_readText v).bind fun _ => .ok _
  split
  · exact (failsAs_readText v).bind fun _ => .ok _
  · exact .ok r

lemma failsAs_readResource (v : Value) : FailsAs .backend (readResource v) :=
  (failsAs_readFields _ v).bind fun fields =>
    .foldlM (fun r entry => failsAs_setResourceField r entry.1 entry.2) fields {}

lemma failsAs_readResources (v : Value) : FailsAs .backend (readResources v) := by
  rw [readResources.eq_def]
  split
  · exact FailsAs.foldlM (fun _ _ => (failsAs_readResource _).bind fun _ => .ok _) _ _
  · exact .error rfl

lemma failsAs_setField (c : Option String × SortedMap String PromotedResource) (key : String)
    (v : Value) : FailsAs .backend (setField c key v) := by
  rw [setField]
  split
  · exact (failsAs_readText v).bind fun _ => .ok _
  split
  · exact (failsAs_readResources v).bind fun _ => .ok _
  · exact .ok c

lemma failsAs_ofValue (v : Value) : FailsAs .backend (ofValue v) := by
  refine (failsAs_readFields _ v).bind fun fields => ?_
  refine (FailsAs.foldlM (fun c entry => failsAs_setField c entry.1 entry.2) fields _).bind ?_
  rintro ⟨id | id, resources⟩
  · exact .error rfl
  · exact .ok _

lemma failsAs_readDocument (entries : Entries) : FailsAs .backend (readDocument entries) := by
  rw [readDocument]
  split
  · exact .ok []
  · exact (failsAs_readItems _).bind fun items => .mapM failsAs_ofValue items

/-- **A text that is no configuration** is the backend's fault. -/
lemma failsAs_ofToml (text : String) : FailsAs .backend (ofToml text) := by
  rw [ofToml]
  split
  · exact .error rfl
  · refine (failsAs_readDocument _).bind fun configs => ?_
    split
    · exact .ok _
    · exact .error rfl

lemma failsAs_resource (c : PromoterConfig) : FailsAs .backend c.resource := by
  rw [resource]
  split
  · exact .ok _
  · exact .error rfl
  · exact .error rfl

end PromoterConfig

/-! ## Agents -/

namespace Agent

lemma failsAs_require (a : Agent) (key : String) : FailsAs .backend (a.require key) := by
  rw [require]
  split
  · exact .ok _
  · exact .error rfl

lemma failsAs_requireNumber {α : Type} (read : String → Option α) (a : Agent) (key : String) :
    FailsAs .backend (a.requireNumber read key) := by
  refine (failsAs_require a key).bind fun raw => ?_
  split
  · exact .ok _
  · exact .error rfl

lemma failsAs_claimed (a : Agent) : FailsAs .backend a.claimed := by
  refine (failsAs_require a "ip").bind fun address => ?_
  refine (failsAs_require a "cidr_netmask").bind fun length => ?_
  split
  · exact .ok _
  · exact .error rfl

lemma failsAs_serviceIps (agents : List Agent) : FailsAs .backend (serviceIps agents) :=
  .mapM failsAs_claimed _

end Agent

/-! ## Endpoints -/

namespace Endpoint

/-- Reporting an error as one of the configuration hides what the parser blames. -/
lemma failsAs_asPromoterError {α : Type} (place : String) (result : Except Error α) :
    FailsAs .backend (asPromoterError place result) := by
  cases result with
  | ok a => exact .ok a
  | error err => exact .error rfl

lemma failsAs_checkConfigId {p : Protocol} (c : PromoterConfig) (identity : p.Identity) :
    FailsAs .backend (checkConfigId c identity) := by
  rw [checkConfigId]
  split
  · exact .ok ()
  · exact .error rfl

lemma failsAs_findAgent (c : PromoterConfig) (agents : List Agent) (kind what : String) :
    FailsAs .backend (findAgent c agents kind what) := by
  rw [findAgent]
  split
  · exact .ok _
  · exact .error rfl

lemma failsAs_numbersOf (agents : List Agent) (kind key : String) :
    FailsAs .backend (numbersOf agents kind key) :=
  .mapM (fun a => (a.failsAs_requireNumber _ key).bind fun _ => .ok _) _

lemma failsAs_mountedVolumes (agents : List Agent) : FailsAs .backend (mountedVolumes agents) := by
  induction agents with
  | nil => exact .ok []
  | cons a rest ih =>
      rw [mountedVolumes]
      split
      · exact ih
      · exact (a.failsAs_require "fstype").bind fun _ => ih.bind fun _ => .ok _

lemma failsAs_exportPathOf (name : String) (recorded : Option String) (exports : List Agent)
    (volumes : List Volume) : FailsAs .backend (exportPathOf name recorded exports volumes) := by
  rw [exportPathOf.eq_def]
  split
  · exact .ok _
  · refine (Agent.failsAs_require _ "directory").bind fun directory => ?_
    split
    · exact .ok _
    · exact .error rfl
  · exact .ok _

lemma failsAs_allowedIpsOf (recorded : Option String) (exports : List Agent)
    (volumes : List Volume) : FailsAs .backend (allowedIpsOf recorded exports volumes) := by
  rw [allowedIpsOf.eq_def]
  split
  · exact (FailsAs.mapM (fun _ => failsAs_asPromoterError _ _) _).bind fun _ => .ok _
  · exact (FailsAs.mapM (fun a => (a.failsAs_require "allowed_ip").bind fun _ =>
      failsAs_asPromoterError _ _) _).bind fun _ => .ok _
  · exact .ok _

lemma failsAs_targetOf (c : PromoterConfig) (definition : Option ResourceDefinition)
    (volumeDefinitions : List VolumeDefinition) :
    FailsAs .backend (targetOf c definition volumeDefinitions) := by
  refine c.failsAs_resource.bind fun managed => ?_
  refine (failsAs_findAgent c _ _ _).bind fun target => ?_
  refine (target.failsAs_require "iqn").bind fun name => ?_
  refine (failsAs_asPromoterError "" _).bind fun iqn => ?_
  split
  · exact .error rfl
  · refine (failsAs_checkConfigId (p := .iscsi) c iqn).bind fun _ => ?_
    refine (failsAs_asPromoterError "" _).bind fun allowedInitiators => ?_
    refine (failsAs_numbersOf _ _ _).bind fun numbers => ?_
    exact (Agent.failsAs_serviceIps _).bind fun serviceIps => .ok _

lemma failsAs_exportOf (c : PromoterConfig) (definition : Option ResourceDefinition)
    (volumeDefinitions : List VolumeDefinition) :
    FailsAs .backend (exportOf c definition volumeDefinitions) := by
  refine c.failsAs_resource.bind fun managed => ?_
  refine (failsAs_checkConfigId (p := .nfs) c managed.1).bind fun _ => ?_
  refine (failsAs_findAgent c _ _ _).bind fun _ => ?_
  refine (Agent.failsAs_serviceIps _).bind fun serviceIps => ?_
  refine (failsAs_mountedVolumes _).bind fun numbers => ?_
  refine (failsAs_exportPathOf _ _ _ _).bind fun exportPath => ?_
  exact (failsAs_allowedIpsOf _ _ _).bind fun allowedIps => .ok _

lemma failsAs_subsystemOf (c : PromoterConfig) (definition : Option ResourceDefinition)
    (volumeDefinitions : List VolumeDefinition) :
    FailsAs .backend (subsystemOf c definition volumeDefinitions) := by
  refine c.failsAs_resource.bind fun managed => ?_
  refine (failsAs_findAgent c _ _ _).bind fun subsystem => ?_
  refine (subsystem.failsAs_require "nqn").bind fun name => ?_
  refine (failsAs_asPromoterError "" _).bind fun nqn => ?_
  split
  · exact .error rfl
  · refine (failsAs_checkConfigId (p := .nvmeof) c nqn).bind fun _ => ?_
    refine (failsAs_findAgent c _ _ _).bind fun portAgent => ?_
    refine (portAgent.failsAs_requireNumber _ "svcid").bind fun port => ?_
    refine (failsAs_numbersOf _ _ _).bind fun numbers => ?_
    exact (Agent.failsAs_serviceIps _).bind fun serviceIps => .ok _

/-- **A configuration that stands for no endpoint** is the backend's fault. -/
theorem failsAs_ofPromoter (p : Protocol) (c : PromoterConfig)
    (definition : Option ResourceDefinition) (volumeDefinitions : List VolumeDefinition) :
    FailsAs .backend (ofPromoter p c definition volumeDefinitions) := by
  cases p with
  | iscsi => exact failsAs_targetOf c definition volumeDefinitions
  | nfs => exact failsAs_exportOf c definition volumeDefinitions
  | nvmeof => exact failsAs_subsystemOf c definition volumeDefinitions

end Endpoint

end FailoverStorage
